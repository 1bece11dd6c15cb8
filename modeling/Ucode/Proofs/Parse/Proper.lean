import Mathlib.Tactic.SplitIfs
import Ucode.Parse.Reduction
import Ucode.Proofs.Tree.Grown

/-!
# What lies on the stack

A stack is proper if all trees on it are grown, and if outside of recovery each link is an extra or a step of the table: so below
the state in which a text is accepted there is only a markup, with extras behind it. At the end of a text trees are put on the
stack that fit nowhere. Nothing is known of a vertex with such a tree, but clear vertices, those without, only lead to clear
ones, and a version that goes on stands on one. What only touches the versions keeps a stack proper, and there is one lemma for each
of the few operations that touch the graph.
-/
namespace Ucode

/-- A token as it is read: it stands in some text, a word in more than none, and the end of the text is an extra. -/
structure Leaf.Proper (l : Leaf) : Prop where
  known : l.symbol < Symbol.tokenCount ∨ l.symbol = Symbol.error
  written : l.symbol ≠ Symbol.unwritten
  word : l.symbol = Symbol.word ∨ l.origin = .code true → 0 < l.size.bytes
  finish : l.symbol = Symbol.finish → l.extra = true

namespace Parse

open Grammar (StateId Leads)

/-- What is asked of a link that goes down from a state, where vertices have the given states and some of them are clear. -/
structure Link.Fits (link : Link) (stateAt : Nat → StateId) (isClear : Nat → Prop) (state : StateId) : Prop where
  grown : ∀ t ∈ link.tree, t.Grown
  below : isClear link.target
  onward : state ≠ StateId.recovery → ∃ t ∈ link.tree,
    (t.extra = true ∧ stateAt link.target = state) ∨ (t.extra = false ∧ Leads (stateAt link.target) t.symbol state)

/-- What is asked of a version: it waits for a token that can be read, and if it goes on its top is clear. -/
structure Version.Fits (version : Version) (isClear : Nat → Prop) : Prop where
  waiting : ∀ token, version.status = .paused token → token.Proper
  going : version.status ≠ .halted → isClear version.top

theorem Version.fits_halted {version : Version} (halted : version.status = .halted) (isClear : Nat → Prop) :
    version.Fits isClear :=
  ⟨fun _ paused => absurd (halted.symm.trans paused) (by simp), fun going => absurd halted going⟩

section Fits

variable {link : Link} {version : Version} {stateAt stateAt' : Nat → StateId} {isClear isClear' : Nat → Prop} {state : StateId}
  {t : Tree} {target : Nat}

theorem Link.Fits.mono (fits : link.Fits stateAt isClear state)
    (states : ∀ v, stateAt v ≠ StateId.recovery → stateAt' v = stateAt v) (opens : ∀ v, isClear v → isClear' v) :
    link.Fits stateAt' isClear' state := by
  refine ⟨fits.grown, opens _ fits.below, fun proper => ?_⟩
  obtain ⟨t, tree, ⟨extra, below⟩ | ⟨plain, leads⟩⟩ := fits.onward proper
  · exact ⟨t, tree, Or.inl ⟨extra, by rw [states _ (below ▸ proper), below]⟩⟩
  · exact ⟨t, tree, Or.inr ⟨plain, by rwa [states _ leads.facts.source]⟩⟩

theorem Link.Fits.inner (fits : link.Fits stateAt isClear state) : ∀ t ∈ link.tree, t.isFinal = false :=
  fun t tree => (fits.grown t tree).isFinal

/-- Behind a markup there is the markup itself, over nothing but the start of the text, or an extra. -/
theorem Link.Fits.behindMarkup (fits : link.Fits stateAt isClear StateId.behindMarkup) : ∃ t ∈ link.tree,
    (t.symbol = Symbol.markup ∧ t.extra = false ∧ stateAt link.target = StateId.start) ∨
      (t.extra = true ∧ stateAt link.target = StateId.behindMarkup) := by
  obtain ⟨t, tree, extra | ⟨plain, leads⟩⟩ := fits.onward (by decide)
  · exact ⟨t, tree, Or.inr extra⟩
  · obtain ⟨below, markup⟩ := leads.facts.behindMarkup rfl
    exact ⟨t, tree, Or.inl ⟨markup, plain, below⟩⟩

theorem Link.Fits.start (fits : link.Fits stateAt isClear StateId.start) :
    ∃ t ∈ link.tree, t.extra = true ∧ stateAt link.target = StateId.start := by
  obtain ⟨t, tree, extra | ⟨_, leads⟩⟩ := fits.onward (by decide)
  · exact ⟨t, tree, extra⟩
  · exact absurd rfl leads.facts.later

/-- In recovery all that is asked of a tree is that it is grown. -/
theorem Link.fits_recovery {tree : Option Tree} (grown : ∀ t ∈ tree, t.Grown) (below : isClear target) :
    Link.Fits ⟨target, tree⟩ stateAt isClear StateId.recovery := ⟨grown, below, fun proper => absurd rfl proper⟩

theorem Link.fits_extra (grown : t.Grown) (below : isClear target) (extra : t.extra = true)
    (stays : state ≠ StateId.recovery → stateAt target = state) : Link.Fits ⟨target, some t⟩ stateAt isClear state :=
  ⟨by simpa using grown, below, fun proper => ⟨t, rfl, Or.inl ⟨extra, stays proper⟩⟩⟩

theorem Link.fits_leads (grown : t.Grown) (below : isClear target) (plain : t.extra = false)
    (leads : state ≠ StateId.recovery → Leads (stateAt target) t.symbol state) :
    Link.Fits ⟨target, some t⟩ stateAt isClear state :=
  ⟨by simpa using grown, below, fun proper => ⟨t, rfl, Or.inr ⟨plain, leads proper⟩⟩⟩

theorem Version.Fits.mono (fits : version.Fits isClear) (opens : ∀ v, isClear v → isClear' v) :
    version.Fits isClear' := ⟨fits.waiting, fun going => opens _ (fits.going going)⟩

end Fits

namespace Stack

/-- The state of a vertex. -/
def stateAt (s : Stack) (v : Nat) : StateId := (s.vertex v).state

/-- A vertex is clear if it is there and no tree on it ends a text. -/
def Clear (s : Stack) (v : Nat) : Prop :=
  v < s.vertices.size ∧ ∀ link ∈ (s.vertex v).links, ∀ t ∈ link.tree, t.isFinal = false

/-- A version stands where it can go on. -/
def Open (s : Stack) (i : Nat) : Prop := s.Clear (s.version i).top

/-- A stack whose clear vertices have links that fit, with the start of the text at the bottom. -/
structure Grounded (s : Stack) : Prop where
  bottom : s.stateAt 0 = StateId.start
  ground : s.Clear 0
  links : ∀ v, s.Clear v → ∀ link ∈ (s.vertex v).links, link.Fits s.stateAt s.Clear (s.stateAt v)

/-- A stack with at least so many versions on which only what may lie there does. -/
structure Proper (n : Nat) (s : Stack) : Prop extends s.Grounded where
  size : n ≤ s.size
  versions : ∀ version ∈ s.versions, version.Fits s.Clear

theorem initial_proper : initial.Proper 1 := by
  -- The one vertex has no links, and all others are defaults.
  have bare (v : Nat) : (initial.vertex v).links = [] := by
    rw [vertex, Array.getD_eq_getD_getElem?]
    cases v <;> rfl
  have ground : initial.Clear 0 := by
    refine ⟨Nat.one_pos, fun link member => ?_⟩
    rw [bare] at member
    cases member
  refine ⟨⟨rfl, ground, fun v _ link member => ?_⟩, Nat.le_refl 1, fun version member => ?_⟩
  · rw [bare] at member
    cases member
  · cases List.mem_singleton.mp member
    refine ⟨fun token paused => ?_, fun _ => ground⟩
    cases paused

/-! ### Versions -/

section Versions

variable {s s' : Stack} {n m i j : Nat} {token : Leaf}

theorem Proper.length (proper : s.Proper n) : n ≤ s.versions.length := proper.size

theorem Proper.withVersions (proper : s.Proper n) {versions : List Version} (size : m ≤ versions.length)
    (fits : ∀ version ∈ versions, version.Fits s.Clear) : Proper m { s with versions := versions } :=
  ⟨⟨proper.bottom, proper.ground, proper.links⟩, size, fits⟩

theorem Proper.atLeast (proper : s.Proper n) (size : m ≤ s.size) : s.Proper m :=
  ⟨proper.toGrounded, size, proper.versions⟩

theorem Proper.mono (proper : s.Proper n) (fewer : m ≤ n) : s.Proper m := proper.atLeast (fewer.trans proper.size)

theorem version_beyond (beyond : s.size ≤ i) : s.version i = ⟨0, none, 0, none, .halted⟩ := by
  rw [version, List.getD_eq_getElem?_getD, List.getElem?_eq_none beyond]
  rfl

theorem Proper.fits_version (proper : s.Proper n) (i : Nat) : (s.version i).Fits s.Clear := by
  by_cases within : i < s.size
  · rw [version, List.getD_eq_getElem?_getD, List.getElem?_eq_getElem within]
    exact proper.versions _ (List.getElem_mem within)
  · rw [version_beyond (Nat.not_lt.mp within)]
    exact Version.fits_halted rfl _

theorem Proper.open_of_going (proper : s.Proper n) (going : (s.version i).status ≠ .halted) : s.Open i :=
  (proper.fits_version i).going going

theorem Proper.open_beyond (proper : s.Proper n) (beyond : s.size ≤ i) : s.Open i := by
  rw [Open, version_beyond beyond]
  exact proper.ground

theorem Proper.state_beyond (proper : s.Proper n) (beyond : s.size ≤ i) : s.state i = StateId.start := by
  rw [Stack.state, topOf, version_beyond beyond]
  exact proper.bottom

theorem mem_modify_cases {α : Type} {f : α → α} {xs : List α} {x : α} (member : x ∈ xs.modify i f) :
    (∃ k, k ≠ i ∧ xs[k]? = some x) ∨ ∃ y, xs[i]? = some y ∧ x = f y := by
  obtain ⟨k, here⟩ := List.mem_iff_getElem?.mp member
  rw [List.getElem?_modify] at here
  obtain ⟨y, old, changed⟩ := Option.map_eq_some_iff.mp here
  split_ifs at changed with same
  · exact Or.inr ⟨y, same ▸ old, changed.symm⟩
  · exact Or.inl ⟨k, Ne.symm same, changed ▸ old⟩

theorem Proper.modifyVersion (proper : s.Proper n) (i : Nat) {f : Version → Version}
    (fits : (s.version i).Fits s.Clear → (f (s.version i)).Fits s.Clear) : (s.modifyVersion i f).Proper n := by
  refine proper.withVersions (proper.size.trans_eq (List.length_modify ..).symm) fun version member => ?_
  rcases mem_modify_cases member with ⟨k, _, here⟩ | ⟨old, here, rfl⟩
  · exact proper.versions version (List.mem_of_getElem? here)
  · have same : s.version i = old := by rw [version, List.getD_eq_getElem?_getD, here, Option.getD_some]
    rw [same] at fits
    exact fits (proper.versions old (List.mem_of_getElem? here))

/-- Changes of a version that neither move it nor make it go on keep a stack proper. -/
theorem Proper.modifyKept (proper : s.Proper n) (i : Nat) {f : Version → Version}
    (kept : ∀ version, (f version).top = version.top ∧ (f version).status = version.status) : (s.modifyVersion i f).Proper n := by
  refine proper.modifyVersion i fun fits => ?_
  obtain ⟨top, status⟩ := kept (s.version i)
  refine ⟨fun token paused => fits.waiting token (status ▸ paused), fun going => ?_⟩
  rw [top]
  exact fits.going (status ▸ going)

theorem Proper.remove (proper : s.Proper n) (later : n ≤ i ∨ n < s.size) : (s.remove i).Proper n := by
  refine proper.withVersions ?_ fun version member => proper.versions version (List.mem_of_mem_eraseIdx member)
  have size := proper.length
  rw [Stack.size] at later
  rw [List.length_eraseIdx]
  split_ifs <;> omega

theorem Proper.copy (proper : s.Proper n) (i : Nat) : (s.copy i).Proper (n + 1) := by
  refine proper.withVersions (by simpa using proper.length) (List.forall_mem_append.mpr ⟨proper.versions, ?_⟩)
  obtain ⟨waiting, going⟩ := proper.fits_version i
  exact List.forall_mem_singleton.mpr ⟨waiting, going⟩

theorem Proper.swap (proper : s.Proper n) (i j : Nat) : (s.swap i j).Proper n := by
  refine proper.withVersions (by simpa using proper.length) fun version member => ?_
  rcases List.mem_or_eq_of_mem_set member with member | rfl
  · rcases List.mem_or_eq_of_mem_set member with member | rfl
    · exact proper.versions version member
    · exact proper.fits_version j
  · exact proper.fits_version i

theorem Proper.replace (proper : s.Proper (n + 1)) (i j : Nat) : (s.replace i j).Proper n := by
  unfold Stack.replace
  split_ifs with same
  · exact proper.mono (Nat.le_succ n)
  · refine proper.withVersions ?_ fun version member => ?_
    · have size := proper.length
      rw [List.length_eraseIdx, List.length_set]
      split_ifs <;> omega
    · rcases List.mem_or_eq_of_mem_set (List.mem_of_mem_eraseIdx member) with member | rfl
      · exact proper.versions version member
      · obtain ⟨waiting, going⟩ := proper.fits_version i
        exact ⟨waiting, going⟩

theorem Proper.halt (proper : s.Proper n) (i : Nat) : (s.halt i).Proper n :=
  proper.modifyVersion i fun _ => Version.fits_halted rfl _

end Versions

/-! ### Versions that stay -/

/-- The vertices that are known of the first stack are so of the second one. -/
structure Extends (s s' : Stack) : Prop where
  states : ∀ v, s.stateAt v ≠ StateId.recovery → s'.stateAt v = s.stateAt v
  opens : ∀ v, s.Clear v → s'.Clear v

/-- The first versions stay where they are. -/
structure Keeps (n : Nat) (s s' : Stack) : Prop extends s.Extends s' where
  tops : ∀ k < n, (s'.version k).top = (s.version k).top

/-- All versions from a number on stand where they can go on. -/
def OpenFrom (n : Nat) (s : Stack) : Prop := ∀ k, n ≤ k → s.Open k

section Keeps

variable {s s' s'' : Stack} {n m i k : Nat}

theorem extends_of_vertices (same : s'.vertices = s.vertices) : s.Extends s' := by
  cases s
  cases s'
  cases same
  exact ⟨fun _ _ => rfl, fun _ => id⟩

theorem Extends.trans (first : s.Extends s') (second : s'.Extends s'') : s.Extends s'' where
  states v known := by rw [second.states v (by rwa [first.states v known]), first.states v known]
  opens v free := second.opens v (first.opens v free)

theorem Keeps.refl (n : Nat) (s : Stack) : s.Keeps n s := ⟨extends_of_vertices rfl, fun _ _ => rfl⟩

theorem Keeps.trans (first : s.Keeps n s') (second : s'.Keeps n s'') : s.Keeps n s'' where
  toExtends := first.toExtends.trans second.toExtends
  tops k within := (second.tops k within).trans (first.tops k within)

theorem Keeps.mono (keeps : s.Keeps n s') (fewer : m ≤ n) : s.Keeps m s' :=
  ⟨keeps.toExtends, fun k within => keeps.tops k (Nat.lt_of_lt_of_le within fewer)⟩

theorem Keeps.state (keeps : s.Keeps n s') (within : k < n) (proper : s.state k ≠ StateId.recovery) : s'.state k = s.state k := by
  rw [Stack.state, topOf, keeps.tops k within]
  exact keeps.states _ proper

theorem Keeps.open (keeps : s.Keeps n s') (within : k < n) (free : s.Open k) : s'.Open k := by
  rw [Open, keeps.tops k within]
  exact keeps.opens _ free

theorem Proper.openFrom (proper : s.Proper n) : s.OpenFrom s.size := fun _ => proper.open_beyond

theorem Keeps.openFrom (keeps : s.Keeps n s') (before : s.OpenFrom m) (free : s'.OpenFrom n) : s'.OpenFrom m := by
  intro k later
  by_cases within : k < n
  · exact keeps.open within (before k later)
  · exact free k (Nat.not_lt.mp within)

/-- The first versions stay where they are, and all others are open. -/
structure Grows (n : Nat) (s s' : Stack) : Prop where
  proper : s'.Proper n
  keeps : s.Keeps n s'
  free : s'.OpenFrom n

theorem Grows.trans (first : s.Grows n s') (second : s'.Grows n s'') : s.Grows n s'' :=
  ⟨second.proper, first.keeps.trans second.keeps, second.free⟩

theorem Grows.mono (grows : s.Grows n s') (fewer : m ≤ n) (free : s.OpenFrom m) : s.Grows m s' :=
  ⟨grows.proper.mono fewer, grows.keeps.mono fewer, grows.keeps.openFrom free grows.free⟩

theorem Proper.grows (proper : s.Proper n) (free : s.OpenFrom n) : s.Grows n s := ⟨proper, .refl n s, free⟩

theorem version_remove_of_lt (before : k < i) : (s.remove i).version k = s.version k := by
  simp only [version, Stack.remove, List.getD_eq_getElem?_getD, List.getElem?_eraseIdx_of_lt before]

theorem version_remove_of_le (behind : i ≤ k) : (s.remove i).version k = s.version (k + 1) := by
  simp only [version, Stack.remove, List.getD_eq_getElem?_getD, List.getElem?_eraseIdx_of_ge behind]

theorem keeps_remove (later : n ≤ i) : s.Keeps n (s.remove i) :=
  ⟨extends_of_vertices rfl, fun _ within => by rw [version_remove_of_lt (Nat.lt_of_lt_of_le within later)]⟩

theorem OpenFrom.remove (free : s.OpenFrom n) (i : Nat) : (s.remove i).OpenFrom n := by
  intro k later
  by_cases before : k < i
  · rw [Open, version_remove_of_lt before]
    exact free k later
  · rw [Open, version_remove_of_le (Nat.not_lt.mp before)]
    exact free (k + 1) (Nat.le_succ_of_le later)

theorem Grows.remove (grows : s.Grows n s') (later : n ≤ i) : s.Grows n (s'.remove i) :=
  grows.trans ⟨grows.proper.remove (Or.inl later), keeps_remove later, grows.free.remove i⟩

theorem top_modifyVersion (s : Stack) (i k : Nat) {f : Version → Version} (top : ∀ version, (f version).top = version.top) :
    ((s.modifyVersion i f).version k).top = (s.version k).top := by
  simp only [version, modifyVersion, List.getD_eq_getElem?_getD, List.getElem?_modify]
  cases s.versions[k]? with
  | none => rfl
  | some version =>
    by_cases here : i = k
    · simp [here, top]
    · simp [here]

theorem keeps_modifyVersion (n i : Nat) {f : Version → Version} (top : ∀ version, (f version).top = version.top) :
    s.Keeps n (s.modifyVersion i f) := ⟨extends_of_vertices rfl, fun k _ => top_modifyVersion s i k top⟩

theorem OpenFrom.modifyVersion (free : s.OpenFrom n) (i : Nat) {f : Version → Version}
    (top : ∀ version, (f version).top = version.top) : (s.modifyVersion i f).OpenFrom n := by
  intro k later
  rw [Open, top_modifyVersion s i k top]
  exact free k later

end Keeps

/-! ### The graph -/

section Graph

variable {s s' : Stack} {n i j : Nat} {tree : Option Tree} {t : Tree} {state : StateId}

theorem vertex_push_of_ne {v : Nat} (other : v ≠ s.vertices.size) : (s.push i tree state).vertex v = s.vertex v := by
  simp only [vertex, push, Array.getD_eq_getD_getElem?, Array.getElem?_push, if_neg other]

theorem vertex_push_size (s : Stack) (i : Nat) (tree : Option Tree) (state : StateId) :
    (s.push i tree state).stateAt s.vertices.size = state ∧
      ((s.push i tree state).vertex s.vertices.size).links = [⟨(s.version i).top, tree⟩] := by
  simp only [stateAt, vertex, push, Array.getD_eq_getD_getElem?, Array.getElem?_push_size, Option.getD_some]
  cases tree <;> exact ⟨rfl, rfl⟩

theorem lt_of_stateAt {v : Nat} (present : s.stateAt v ≠ StateId.recovery) : v < s.vertices.size := by
  refine Nat.lt_of_not_le fun beyond => present ?_
  rw [stateAt, vertex, Array.getD_eq_getD_getElem?, Array.getElem?_eq_none beyond]
  rfl

theorem stateAt_push {v : Nat} (present : s.stateAt v ≠ StateId.recovery) :
    (s.push i tree state).stateAt v = s.stateAt v := by
  rw [stateAt, vertex_push_of_ne (Nat.ne_of_lt (lt_of_stateAt present)), stateAt]

@[simp] theorem size_push : (s.push i tree state).size = s.size := List.length_modify ..

@[simp] theorem size_vertices_push : (s.push i tree state).vertices.size = s.vertices.size + 1 := Array.size_push ..

theorem clear_push_of_ne {v : Nat} (old : v ≠ s.vertices.size) : (s.push i tree state).Clear v ↔ s.Clear v := by
  rw [Clear, Clear, vertex_push_of_ne old, size_vertices_push]
  exact and_congr_left fun _ => by omega

/-- The new vertex is clear, unless a tree that ends a text was put there. -/
theorem clear_push_size : (s.push i tree state).Clear s.vertices.size ↔ ∀ t ∈ tree, t.isFinal = false := by
  rw [Clear, size_vertices_push, (s.vertex_push_size i tree state).2]
  simp

theorem clear_push {v : Nat} (clear : s.Clear v) : (s.push i tree state).Clear v :=
  (clear_push_of_ne (Nat.ne_of_lt clear.1)).mpr clear

theorem extends_push : s.Extends (s.push i tree state) := ⟨fun _ known => stateAt_push known, fun _ => clear_push⟩

theorem version_push_of_ne (other : j ≠ i) : (s.push i tree state).version j = s.version j := by
  simp [version, push, Ne.symm other]

theorem top_push_self (valid : i < s.size) : ((s.push i tree state).version i).top = s.vertices.size := by
  have here : s.versions[i]? = some s.versions[i] := List.getElem?_eq_getElem valid
  simp only [version, push, List.getD_eq_getElem?_getD, List.getElem?_modify_eq, here]
  rfl

theorem version_push_beyond (beyond : s.size ≤ i) (j : Nat) : (s.push i tree state).version j = s.version j := by
  by_cases other : j = i
  · subst other
    rw [version_beyond beyond, version_beyond (size_push.trans_le beyond)]
  · exact version_push_of_ne other

/-- Whatever version a tree is put on, the others and that one are as open as before. -/
theorem open_push (inner : ∀ t ∈ tree, t.isFinal = false) (free : s.Open j) : (s.push i tree state).Open j := by
  by_cases here : j = i ∧ i < s.size
  · obtain ⟨rfl, valid⟩ := here
    rw [Open, top_push_self valid]
    exact clear_push_size.mpr inner
  · have same : (s.push i tree state).version j = s.version j := by
      by_cases other : j = i
      · exact version_push_beyond (Nat.not_lt.mp fun valid => here ⟨other, valid⟩) j
      · exact version_push_of_ne other
    rw [Open, same]
    exact clear_push free

theorem state_push_self (valid : i < s.size) : (s.push i tree state).state i = state := by
  rw [Stack.state, topOf, top_push_self valid]
  exact (s.vertex_push_size i tree state).1

theorem state_push_same (proper : s.Proper n) (stands : s.state i = state) : (s.push i tree state).state i = state := by
  by_cases valid : i < s.size
  · exact state_push_self valid
  · have beyond := Nat.not_lt.mp valid
    rw [Stack.state, topOf, version_push_beyond beyond, version_beyond beyond]
    exact (stateAt_push (by rw [proper.bottom]; decide)).trans (proper.bottom.trans ((proper.state_beyond beyond).symm.trans stands))

/-- Puts a tree on a version, which fits below the new state unless it ends a text. -/
theorem Grounded.push (grounded : s.Grounded)
    (fits : (∀ t ∈ tree, t.isFinal = false) → Link.Fits ⟨(s.version i).top, tree⟩ s.stateAt s.Clear state) :
    (s.push i tree state).Grounded := by
  have more : s.Extends (s.push i tree state) := extends_push
  refine ⟨?_, clear_push grounded.ground, fun v clear link member => ?_⟩
  · rw [stateAt_push (by rw [grounded.bottom]; decide), grounded.bottom]
  · -- All vertices but the new one are as they were.
    by_cases last : v = s.vertices.size
    · subst last
      obtain ⟨here, only⟩ := s.vertex_push_size i tree state
      rw [only, List.mem_singleton] at member
      rw [here, member]
      exact (fits (clear_push_size.mp clear)).mono more.states more.opens
    · have same : (s.push i tree state).vertex v = s.vertex v := vertex_push_of_ne last
      rw [same] at member
      have old := (grounded.links v ((clear_push_of_ne last).mp clear) link member).mono more.states more.opens
      rwa [stateAt, ← same] at old

theorem Proper.push (proper : s.Proper n) (fits : Link.Fits ⟨(s.version i).top, tree⟩ s.stateAt s.Clear state) :
    (s.push i tree state).Proper n := by
  refine ⟨proper.toGrounded.push fun _ => fits, proper.size.trans_eq size_push.symm, fun version member => ?_⟩
  rcases mem_modify_cases member with ⟨k, _, here⟩ | ⟨old, here, rfl⟩
  · exact (proper.versions version (List.mem_of_getElem? here)).mono fun _ => clear_push
  · have fits' : old.Fits (s.push i tree state).Clear :=
      (proper.versions old (List.mem_of_getElem? here)).mono fun _ => clear_push
    exact ⟨fits'.waiting, fun _ => clear_push_size.mpr fits.inner⟩

/-- A version was moved on: the others stand where they did, and none of them is less open than before. -/
structure Moves (i : Nat) (s s' : Stack) : Prop extends s.Extends s' where
  size : s'.size = s.size
  tops : ∀ k, k ≠ i → (s'.version k).top = (s.version k).top
  free : ∀ k, s.Open k → s'.Open k

theorem Moves.refl (i : Nat) (s : Stack) : s.Moves i s := ⟨extends_of_vertices rfl, rfl, fun _ _ => rfl, fun _ => id⟩

theorem Moves.trans {s'' : Stack} (first : s.Moves i s') (second : s'.Moves i s'') : s.Moves i s'' where
  toExtends := first.toExtends.trans second.toExtends
  size := second.size.trans first.size
  tops k other := (second.tops k other).trans (first.tops k other)
  free k stands := second.free k (first.free k stands)

theorem Moves.keeps (moves : s.Moves i s') (later : n ≤ i) : s.Keeps n s' :=
  ⟨moves.toExtends, fun k within => moves.tops k (Nat.ne_of_lt (Nat.lt_of_lt_of_le within later))⟩

theorem Moves.openFrom (moves : s.Moves i s') (free : s.OpenFrom n) : s'.OpenFrom n := fun k later => moves.free k (free k later)

theorem Grows.moves {s'' : Stack} (grows : s.Grows n s') (moves : s'.Moves i s'') (later : n ≤ i) (proper : s''.Proper n) :
    s.Grows n s'' :=
  grows.trans ⟨proper, moves.keeps later, moves.openFrom grows.free⟩

theorem moves_push (inner : ∀ t ∈ tree, t.isFinal = false) : s.Moves i (s.push i tree state) :=
  ⟨extends_push, size_push, fun _ other => by rw [version_push_of_ne other], fun _ => open_push inner⟩

theorem Proper.pushAll (proper : s.Proper n) (free : s.Open i) {trees : List Tree} (grown : ∀ t ∈ trees, t.Grown)
    (extra : ∀ t ∈ trees, t.extra = true) (stands : state ≠ StateId.recovery → s.state i = state) :
    (s.pushAll i trees state).Proper n ∧ s.Moves i (s.pushAll i trees state) := by
  unfold Stack.pushAll
  induction trees generalizing s with
  | nil => exact ⟨proper, .refl i s⟩
  | cons t trees ih =>
    rw [List.forall_mem_cons] at grown extra
    have moved : s.Moves i (s.push i (some t) state) := moves_push (by simpa using grown.1.isFinal)
    have pushed := proper.push (Link.fits_extra grown.1 free extra.1 stands)
    obtain ⟨proper', moves⟩ := ih pushed (moved.free i free) grown.2 extra.2 fun known => state_push_same proper (stands known)
    exact ⟨proper', moved.trans moves⟩

end Graph

/-! ### Joining -/

section Join

variable {s s' : Stack} {n m i j : Nat} {link : Link}

/-- The stack has got other links, but its versions and the states of its vertices are the same. -/
structure Relinked (s s' : Stack) : Prop where
  stateAt : s'.stateAt = s.stateAt
  versions : s'.versions = s.versions
  opens : ∀ v, s.Clear v → s'.Clear v

theorem Relinked.refl (s : Stack) : s.Relinked s := ⟨rfl, rfl, fun _ => id⟩

theorem Relinked.trans {s'' : Stack} (first : s.Relinked s') (second : s'.Relinked s'') : s.Relinked s'' :=
  ⟨second.stateAt.trans first.stateAt, second.versions.trans first.versions, fun v free => second.opens v (first.opens v free)⟩

theorem Relinked.version (relinked : s.Relinked s') (k : Nat) : s'.version k = s.version k := by
  rw [Stack.version, relinked.versions, Stack.version]

theorem Relinked.keeps (relinked : s.Relinked s') (n : Nat) : s.Keeps n s' where
  states v _ := congrFun relinked.stateAt v
  opens := relinked.opens
  tops k _ := by rw [relinked.version k]

theorem Relinked.openFrom (relinked : s.Relinked s') (free : s.OpenFrom n) : s'.OpenFrom n := by
  intro k later
  rw [Open, relinked.version k]
  exact relinked.opens _ (free k later)

/-- If each link of a vertex can be dealt with, all of them can. -/
theorem Proper.forLinks (proper : s.Proper n) (source : Nat) (step : Stack → Link → Stack)
    (deals : ∀ s', s'.Proper n → s.Relinked s' → ∀ link ∈ (s'.vertex source).links,
      (step s' link).Proper n ∧ s'.Relinked (step s' link)) (fuel k : Nat) :
    (s.forLinks source step fuel k).Proper n ∧ s.Relinked (s.forLinks source step fuel k) := by
  induction fuel generalizing s k with
  | zero => exact ⟨proper, .refl s⟩
  | succ fuel ih =>
    rw [Stack.forLinks]
    split
    · exact ⟨proper, .refl s⟩
    · next link here =>
      obtain ⟨now, same⟩ := deals s proper (.refl s) link (List.mem_of_getElem? here)
      obtain ⟨later, still⟩ := ih now (fun s' proper' relinked => deals s' proper' (same.trans relinked)) (k + 1)
      exact ⟨later, same.trans still⟩

/-- The vertices of equivalent links are joined only if they have the same state. -/
theorem stateAt_of_planLink {links : List Link} {old : Nat} (plan : s.planLink link links = .mergeInto old) :
    s.stateAt old = s.stateAt link.target := by
  induction links with
  | nil => cases plan
  | cons first others ih =>
    rw [planLink] at plan
    split_ifs at plan with equivalent target same
    · cases plan
      rw [isSamePlace, Bool.and_eq_true, Bool.and_eq_true] at same
      exact eq_of_beq same.1.1
    · exact ih plan
    · exact ih plan

/-- A vertex that gets another link keeps its state, and is clear if it was. -/
theorem Proper.grow (proper : s.Proper n) {id nodes : Nat} (fits : link.Fits s.stateAt s.Clear (s.stateAt id)) :
    let grown : Vertex := { s.vertex id with links := (s.vertex id).links ++ [link], nodes := nodes }
    Proper n { s with vertices := s.vertices.setIfInBounds id grown } ∧
      s.Relinked { s with vertices := s.vertices.setIfInBounds id grown } := by
  intro grown
  let s' : Stack := { s with vertices := s.vertices.setIfInBounds id grown }
  -- Only one vertex may have changed, and in its links alone.
  have vertex_eq (v : Nat) : s'.vertex v = s.vertex v ∨ (v = id ∧ s'.vertex v = grown) := by
    simp only [s', vertex, Array.getD_eq_getD_getElem?, Array.getElem?_setIfInBounds]
    split_ifs with here within
    · exact Or.inr ⟨here.symm, rfl⟩
    · refine Or.inl ?_
      rw [← here, Array.getElem?_eq_none (Nat.not_lt.mp within)]
    · exact Or.inl rfl
  have states : s'.stateAt = s.stateAt := by
    funext v
    rcases vertex_eq v with same | ⟨rfl, same⟩ <;> rw [stateAt, same] <;> rfl
  -- A link of the new stack is one of the old stack, or the one that was added.
  have links (v : Nat) (l : Link) (member : l ∈ (s'.vertex v).links) : l ∈ (s.vertex v).links ∨ (v = id ∧ l = link) := by
    rcases vertex_eq v with same | ⟨rfl, same⟩
    · exact Or.inl (same ▸ member)
    · rw [same] at member
      exact (List.mem_append.mp member).imp id fun new => ⟨rfl, List.mem_singleton.mp new⟩
  have kept (v : Nat) (l : Link) (member : l ∈ (s.vertex v).links) : l ∈ (s'.vertex v).links := by
    rcases vertex_eq v with same | ⟨rfl, same⟩
    · exact same ▸ member
    · rw [same]
      exact List.mem_append_left _ member
  have size : s'.vertices.size = s.vertices.size := Array.size_setIfInBounds ..
  have opens (v : Nat) (clear : s.Clear v) : s'.Clear v := by
    refine ⟨size ▸ clear.1, fun l member => ?_⟩
    rcases links v l member with old | ⟨_, rfl⟩
    · exact clear.2 l old
    · exact fits.inner
  have known (v : Nat) (clear : s'.Clear v) : s.Clear v := ⟨size ▸ clear.1, fun l member => clear.2 l (kept v l member)⟩
  -- A clear vertex of the new stack was clear before, so its old links fit as they did.
  refine ⟨⟨⟨(congrFun states 0).trans proper.bottom, opens 0 proper.ground, fun v clear l member => ?_⟩, proper.size,
    fun version member => (proper.versions version member).mono opens⟩, states, rfl, opens⟩
  rw [states]
  rcases links v l member with old | ⟨rfl, rfl⟩
  · exact (proper.links v (known v clear) l old).mono (fun _ _ => rfl) opens
  · exact fits.mono (fun _ _ => rfl) opens

theorem Proper.addLink (proper : s.Proper n) (depth id : Nat) (fits : link.Fits s.stateAt s.Clear (s.stateAt id)) :
    (s.addLink depth id link).Proper n ∧ s.Relinked (s.addLink depth id link) := by
  induction depth generalizing s id link with
  | zero => exact ⟨proper, .refl s⟩
  | succ depth ih =>
    rw [Stack.addLink]
    split_ifs with own
    · exact ⟨proper, .refl s⟩
    · dsimp only
      split
      · exact ⟨proper, .refl s⟩
      · next old plan =>
        -- The links below go to a vertex with the same state, so they fit there as well.
        have same := stateAt_of_planLink plan
        refine proper.forLinks link.target _ (fun s' proper' relinked l member => ?_) maxLinks 0
        have fits' := proper'.links link.target (relinked.opens _ fits.below) l member
        rw [relinked.stateAt, ← same, ← relinked.stateAt] at fits'
        exact ih proper' old fits'
      · split_ifs with full
        · exact ⟨proper, .refl s⟩
        · exact proper.grow fits

theorem lt_size_of_isActive (active : s.isActive i = true) : i < s.size := by
  refine Nat.lt_of_not_le fun beyond => ?_
  rw [isActive, version_beyond beyond] at active
  cases active

theorem Proper.open_of_isActive (proper : s.Proper n) (active : s.isActive i = true) : s.Open i := by
  refine proper.open_of_going fun halted => ?_
  rw [isActive, halted] at active
  cases active

/-- A version was joined to another one. -/
structure Joins (j : Nat) (s s' : Stack) : Prop where
  size : s'.size + 1 = s.size
  keeps : s.Keeps j s'
  free : ∀ n, s.OpenFrom n → s'.OpenFrom n

/-- Joining two versions removes the second one, and those before it stay where they are. -/
theorem Proper.merge? (proper : s.Proper n) (later : n ≤ j ∨ n < s.size) (merged : s.merge? i j = some s') :
    s'.Proper n ∧ s.Joins j s' := by
  unfold Stack.merge? at merged
  split_ifs at merged with can
  rw [canMerge, Bool.and_eq_true, Bool.and_eq_true, Bool.and_eq_true] at can
  obtain ⟨⟨⟨_, active⟩, same⟩, _⟩ := can
  -- Both tops have the same state, so what fits below the second one fits below the first.
  have valid : j < s.size := lt_size_of_isActive active
  have free : s.Clear (s.version j).top := proper.open_of_isActive active
  have state : s.stateAt (s.version i).top = s.stateAt (s.version j).top := by
    rw [isSamePlace, Bool.and_eq_true, Bool.and_eq_true] at same
    exact eq_of_beq same.1.1
  have fits (s' : Stack) (proper' : s'.Proper n) (relinked : s.Relinked s') (l : Link)
      (member : l ∈ (s'.vertex (s.version j).top).links) : l.Fits s'.stateAt s'.Clear (s'.stateAt (s.version i).top) := by
    have old := proper'.links _ (relinked.opens _ free) l member
    rwa [relinked.stateAt, ← state, ← relinked.stateAt] at old
  obtain ⟨joined, relinked⟩ := proper.forLinks (s.version j).top
    (fun s' l => s'.addLink s.vertices.size (s.version i).top l)
    (fun s' proper' relinked l member => proper'.addLink _ _ (fits s' proper' relinked l member)) maxLinks 0
  dsimp only at merged
  generalize s.forLinks (s.version j).top (fun s' l => s'.addLink s.vertices.size (s.version i).top l) maxLinks 0 = s₁
    at joined relinked merged
  have alike : s₁.size = s.size := congrArg List.length relinked.versions
  -- The first version may be settled before the second one is removed.
  have removed (s₂ : Stack) (proper₂ : s₂.Proper n) (size : s₂.size = s.size) (keeps : s.Keeps j s₂)
      (free : ∀ n, s.OpenFrom n → s₂.OpenFrom n) : (s₂.remove j).Proper n ∧ s.Joins j (s₂.remove j) := by
    refine ⟨proper₂.remove (size ▸ later), ?_, keeps.trans (keeps_remove (Nat.le_refl j)), fun n before => (free n before).remove j⟩
    have length : s₂.versions.length = s.size := size
    rw [Stack.remove, Stack.size, List.length_eraseIdx_of_lt (length ▸ valid)]
    omega
  split_ifs at merged with recovering
  · cases merged
    refine removed _ (joined.modifyKept i fun _ => ⟨rfl, rfl⟩) ((List.length_modify ..).trans alike) ?_ fun n before => ?_
    · exact (relinked.keeps j).trans (keeps_modifyVersion j i fun _ => rfl)
    · exact (relinked.openFrom before).modifyVersion i fun _ => rfl
  · cases merged
    exact removed _ joined alike (relinked.keeps j) fun n => relinked.openFrom

theorem Proper.mergeFirst? (proper : s.Proper n) {candidates : List Nat} (later : n ≤ j ∨ n < s.size)
    (merged : s.mergeFirst? candidates j = some s') : s'.Proper n ∧ s.Joins j s' := by
  obtain ⟨i, _, joined⟩ := List.exists_of_findSome?_eq_some merged
  exact proper.merge? later joined

end Join

end Stack
end Parse
end Ucode

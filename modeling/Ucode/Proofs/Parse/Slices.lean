import Mathlib.Data.List.SplitBy
import Ucode.Proofs.Parse.Proper

/-!
# Taking trees off a proper stack

What holds of a path and is kept by each link down holds of all paths that a walk takes (`walk_forall`). So the trees
that are taken off a version of a proper stack are grown, where the version is not in recovery they lie on a path of the table,
and at the end of a text they make up a whole tree. The versions that are left stand on clear vertices.
-/
namespace Ucode.Parse.Stack

open Grammar (StateId)

/-! ### Walks -/

section Walk

variable {σ : Type} {s : Stack} {visit : σ → Path → σ × Visit} {P : Path → Prop}

/-- A path that a visit takes. -/
def Taken (visit : σ → Path → σ × Visit) (p : Path) : Prop := ∃ memory, (visit memory p).2.take = true

/-- What holds of all paths in a round. -/
structure Round.All (visit : σ → Path → σ × Visit) (P : Path → Prop) (r : Round σ) : Prop where
  taken : ∀ p ∈ r.taken, P p ∧ Taken visit p
  kept : ∀ p ∈ r.kept, P p
  added : ∀ p ∈ r.added, P p

/-- If a path goes on, what holds of it has to hold of each way on. -/
theorem Round.All.stepPath {r : Round σ} (all : r.All visit P) {p : Path} (holds : P p)
    (along : ∀ memory, (visit memory p).2.stop = false → ∀ link ∈ (s.vertex p.vertex).links, P (p.along link)) :
    (s.stepPath visit r p).All visit P := by
  -- The path itself is taken or not, whether or not it goes on.
  have taken : ∀ q ∈ (if (visit r.memory p).2.take then p :: r.taken else r.taken), P q ∧ Taken visit q := by
    split_ifs with take
    · exact List.forall_mem_cons.mpr ⟨⟨holds, r.memory, take⟩, all.taken⟩
    · exact all.taken
  unfold Stack.stepPath
  dsimp only
  split
  · exact ⟨taken, all.kept, all.added⟩
  · next first others links =>
    cases stop : (visit r.memory p).2.stop with
    | true =>
      rw [if_pos rfl]
      exact ⟨taken, all.kept, all.added⟩
    | false =>
      rw [if_neg Bool.false_ne_true]
      have ways := along r.memory stop
      rw [links, List.forall_mem_cons] at ways
      -- The first way on takes the place of the path, and the others are new paths.
      refine ⟨taken, List.forall_mem_cons.mpr ⟨ways.1, all.kept⟩, List.forall_mem_append.mpr ⟨?_, all.added⟩⟩
      intro q member
      obtain ⟨link, among, rfl⟩ := List.mem_map.mp (List.mem_reverse.mp member)
      exact ways.2 link (List.mem_of_mem_take among)

theorem Round.All.foldl {r : Round σ} (all : r.All visit P) {paths : List Path} (holds : ∀ p ∈ paths, P p)
    (along : ∀ memory p, P p → (visit memory p).2.stop = false →
      ∀ link ∈ (s.vertex p.vertex).links, P (p.along link)) :
    (paths.foldl (s.stepPath visit) r).All visit P := by
  induction paths generalizing r with
  | nil => exact all
  | cons p paths ih =>
    obtain ⟨now, later⟩ := List.forall_mem_cons.mp holds
    exact ih (all.stepPath now fun memory => along memory p now) later

theorem walkRounds_forall (along : ∀ memory p, P p → (visit memory p).2.stop = false →
      ∀ link ∈ (s.vertex p.vertex).links, P (p.along link)) (fuel : Nat) (memory : σ) {taken paths : List Path}
    (done : ∀ p ∈ taken, P p ∧ Taken visit p) (holds : ∀ p ∈ paths, P p) :
    ∀ p ∈ (s.walkRounds visit fuel memory taken paths).2, P p ∧ Taken visit p := by
  fun_induction walkRounds s visit fuel memory taken paths with
  | case1 => simpa using done
  | case2 => simpa using done
  | case3 fuel memory taken paths other r ih =>
    -- A round starts with no paths that go on, and `Round.All` is kept by each path of it.
    have empty : Round.All visit P ⟨memory, taken, [], [], paths.length⟩ :=
      ⟨done, List.forall_mem_nil _, List.forall_mem_nil _⟩
    have round := empty.foldl holds along
    refine ih round.taken (List.forall_mem_append.mpr ⟨fun p member => ?_, fun p member => ?_⟩)
    · exact round.kept p (List.mem_reverse.mp member)
    · exact round.added p (List.mem_reverse.mp member)

/-- What holds at the top and is kept by each link that a walk follows holds of all paths that are taken. -/
theorem walk_forall (i : Nat) (memory : σ) (start : P ⟨(s.version i).top, [], 0⟩)
    (along : ∀ memory p, P p → (visit memory p).2.stop = false →
      ∀ link ∈ (s.vertex p.vertex).links, P (p.along link)) :
    ∀ p ∈ (s.walk i memory visit).2, P p ∧ Taken visit p :=
  walkRounds_forall along _ memory (List.forall_mem_nil _) (by simpa using start)

end Walk

/-! ### Slices -/

section Slices

variable {s : Stack} {paths : List Path} {n i : Nat}

/-- What is known of the slices that some paths leave, and of the stack with the versions for them. -/
structure Sliced (s : Stack) (paths : List Path) (acc : Stack × List Slice) : Prop where
  vertices : acc.1.vertices = s.vertices
  versions : ∃ more, acc.1.versions = s.versions ++ more ∧
    ∀ version ∈ more, version.status = .active ∧ ∃ p ∈ paths, version.top = p.vertex
  slices : ∀ slice ∈ acc.2, (s.size ≤ slice.version ∧ slice.version < acc.1.size) ∧
    ∃ p ∈ paths, slice.trees = p.trees ∧ (acc.1.version slice.version).top = p.vertex
  sorted : acc.2.Pairwise (·.version ≤ ·.version)

theorem exists_split_of_findIdx?_reverse {α : Type} {q : α → Bool} {xs : List α} {back : Nat}
    (found : xs.reverse.findIdx? q = some back) :
    ∃ before x after, xs = before ++ x :: after ∧ before.length = xs.length - 1 - back ∧ q x = true := by
  obtain ⟨within, passes, _⟩ := List.findIdx?_eq_some_iff_getElem.mp found
  rw [List.length_reverse] at within
  rw [List.getElem_reverse] at passes
  refine ⟨xs.take (xs.length - 1 - back), _, xs.drop (xs.length - 1 - back + 1), ?_, ?_, passes⟩
  · rw [List.getElem_cons_drop, List.take_append_drop]
  · rw [List.length_take]
    omega

/-- Another path that leads to a version that is left already. -/
theorem Sliced.again {s' : Stack} {before after : List Slice} {slice : Slice} {p : Path}
    (sliced : Sliced s paths (s', before ++ slice :: after)) (among : p ∈ paths)
    (top : (s'.version slice.version).top = p.vertex) :
    Sliced s paths (s', before ++ [slice] ++ ⟨slice.version, p.trees⟩ :: after) := by
  refine ⟨sliced.vertices, sliced.versions, fun other member => ?_, ?_⟩
  · rcases List.mem_append.mp member with left | right
    · exact sliced.slices other (by simp at left ⊢; tauto)
    · rcases List.mem_cons.mp right with rfl | right
      · exact ⟨(sliced.slices slice (by simp)).1, p, among, rfl, top⟩
      · exact sliced.slices other (by simp [right])
  · -- The new slice stands right behind one of the same version, so the rest needs no new comparison.
    obtain ⟨first, second, between⟩ := List.pairwise_append.mp sliced.sorted
    obtain ⟨least, second⟩ := List.pairwise_cons.mp second
    have new : ((⟨slice.version, p.trees⟩ : Slice) :: after).Pairwise (·.version ≤ ·.version) :=
      List.pairwise_cons.mpr ⟨least, second⟩
    rw [← List.append_cons]
    refine List.pairwise_append.mpr ⟨first, List.pairwise_cons.mpr ⟨?_, new⟩, fun x member y behind => ?_⟩
    · exact List.forall_mem_cons.mpr ⟨Nat.le_refl _, least⟩
    · rcases List.mem_cons.mp behind with rfl | behind
      · exact between x member _ (List.mem_cons_self ..)
      · rcases List.mem_cons.mp behind with rfl | behind
        · exact between x member slice (List.mem_cons_self ..)
        · exact between x member y (List.mem_cons_of_mem _ behind)

/-- A path that leads to a vertex at which no version is left yet. -/
theorem Sliced.leave {s' : Stack} {slices : List Slice} {p : Path} (sliced : Sliced s paths (s', slices))
    (among : p ∈ paths) (version : Version) (top : version.top = p.vertex) (active : version.status = .active) :
    Sliced s paths ({ s' with versions := s'.versions ++ [version] }, slices ++ [⟨s'.size, p.trees⟩]) := by
  obtain ⟨more, versions, others⟩ := sliced.versions
  dsimp only at versions
  have size : s.size ≤ s'.size := by
    rw [Stack.size, Stack.size, versions, List.length_append]
    exact Nat.le_add_right ..
  -- The new version is the last one, so its slice comes last as well.
  have grown : (Stack.mk s'.vertices (s'.versions ++ [version])).size = s'.size + 1 := by simp [Stack.size]
  refine ⟨sliced.vertices, ⟨more ++ [version], by simp [versions], ?_⟩, fun slice member => ?_, ?_⟩
  · exact List.forall_mem_append.mpr ⟨others, List.forall_mem_singleton.mpr ⟨active, p, among, top⟩⟩
  · rcases List.mem_append.mp member with old | new
    · obtain ⟨⟨lower, upper⟩, q, known, trees, here⟩ := sliced.slices slice old
      refine ⟨⟨lower, by rw [grown]; exact Nat.lt_succ_of_lt upper⟩, q, known, trees, ?_⟩
      rw [← here, Stack.version, Stack.version, List.getD_eq_getElem?_getD, List.getD_eq_getElem?_getD,
        List.getElem?_append_left upper]
    · cases List.mem_singleton.mp new
      refine ⟨⟨size, by rw [grown]; exact Nat.lt_succ_self _⟩, p, among, rfl, ?_⟩
      rw [Stack.version, List.getD_eq_getElem?_getD, Stack.size, List.getElem?_concat_length]
      exact top
  · refine List.pairwise_append.mpr ⟨sliced.sorted, List.pairwise_singleton .., fun x member y last => ?_⟩
    cases List.mem_singleton.mp last
    exact Nat.le_of_lt (sliced.slices x member).1.2

theorem Sliced.addSlice {acc : Stack × List Slice} (sliced : Sliced s paths acc) (popped : Version) {p : Path}
    (among : p ∈ paths) : Sliced s paths (addSlice popped acc p) := by
  obtain ⟨s', slices⟩ := acc
  unfold Stack.addSlice
  dsimp only
  split
  -- At a vertex where an earlier path has left a version, the slice is put behind the last one of that version.
  · next back found =>
    obtain ⟨before, slice, after, rfl, length, top⟩ := exists_split_of_findIdx?_reverse found
    have front : (before ++ slice :: after).take (before.length + 1) = before ++ [slice] := by
      rw [List.append_cons, List.take_left' (by simp)]
    have back : (before ++ slice :: after).drop (before.length + 1) = after := by
      rw [List.append_cons, List.drop_left' (by simp)]
    have here : (before ++ slice :: after).getD before.length ⟨0, []⟩ = slice := by simp
    rw [← length, front, back, here]
    exact sliced.again among (eq_of_beq top)
  · exact sliced.leave among _ rfl rfl

theorem sliced_addSlices (s : Stack) (i : Nat) (paths : List Path) : Sliced s paths (s.addSlices i paths) := by
  have start : Sliced s paths (s, []) := ⟨rfl, ⟨[], by simp, by simp⟩, by simp, .nil⟩
  have all : ∀ (ps : List Path) (acc : Stack × List Slice), ps ⊆ paths → Sliced s paths acc →
      Sliced s paths (ps.foldl (addSlice (s.version i)) acc) := by
    intro ps
    induction ps with
    | nil => exact fun acc _ sliced => sliced
    | cons p ps ih =>
      intro acc within sliced
      obtain ⟨first, others⟩ := List.cons_subset.mp within
      exact ih _ others (sliced.addSlice _ first)
  exact all paths _ (List.Subset.refl _) start

theorem bounds_addSlices (s : Stack) (i : Nat) (paths : List Path) : ∀ slice ∈ (s.addSlices i paths).2,
    s.size ≤ slice.version ∧ slice.version < (s.addSlices i paths).1.size :=
  fun slice member => ((sliced_addSlices s i paths).slices slice member).1

theorem Sliced.fits {acc : Stack × List Slice} (sliced : Sliced s paths acc) (free : ∀ p ∈ paths, s.Clear p.vertex)
    {more : List Version} (all : acc.1.versions = s.versions ++ more) : ∀ version ∈ more, version.Fits s.Clear := by
  obtain ⟨others, versions, known⟩ := sliced.versions
  obtain rfl := List.append_cancel_left (all.symm.trans versions)
  intro version member
  obtain ⟨active, p, among, top⟩ := known version member
  refine ⟨fun token paused => ?_, fun _ => top ▸ free p among⟩
  rw [active] at paused
  cases paused

theorem Sliced.version_eq {acc : Stack × List Slice} (sliced : Sliced s paths acc) (valid : i < s.size) :
    acc.1.version i = s.version i := by
  obtain ⟨more, all, _⟩ := sliced.versions
  rw [Stack.version, all, List.getD_eq_getElem?_getD, List.getElem?_append_left valid, ← List.getD_eq_getElem?_getD]
  rfl

/-- All versions that were there are still there, and the others stand where a path has ended. -/
theorem Sliced.grows {acc : Stack × List Slice} (sliced : Sliced s paths acc) (proper : s.Proper n)
    (free : ∀ p ∈ paths, s.Clear p.vertex) : s.Grows s.size acc.1 := by
  obtain ⟨more, all, known⟩ := sliced.versions
  have fits := sliced.fits free all
  have keeps : s.Keeps s.size acc.1 :=
    ⟨extends_of_vertices sliced.vertices, fun k within => by rw [sliced.version_eq within]⟩
  obtain ⟨⟨vertices, versions⟩, slices⟩ := acc
  cases sliced.vertices
  cases all
  have size : s.size ≤ (s.versions ++ more).length := by
    rw [List.length_append]
    exact Nat.le_add_right ..
  have grown : Proper s.size { s with versions := s.versions ++ more } :=
    proper.withVersions size (List.forall_mem_append.mpr ⟨proper.versions, fits⟩)
  refine ⟨grown, keeps, fun k later => ?_⟩
  -- The versions that were left are active, so they are open; beyond them there are none.
  by_cases valid : k < (s.versions ++ more).length
  · refine grown.open_of_going fun halted => ?_
    have here : (s.versions ++ more)[k] ∈ more := by
      rw [List.getElem_append_right later]
      exact List.getElem_mem _
    rw [Stack.version, List.getD_eq_getElem?_getD, List.getElem?_eq_getElem valid, Option.getD_some, (known _ here).1] at halted
    cases halted
  · exact grown.open_beyond (Nat.not_lt.mp valid)

/-- A path on which only grown trees were met, and which has come to a clear vertex. -/
structure ClearPath (s : Stack) (p : Path) : Prop where
  grown : ∀ t ∈ p.trees, t.Grown
  clear : s.Clear p.vertex

theorem Proper.clearPath_along (proper : s.Proper n) {p : Path} (path : s.ClearPath p) {link : Link}
    (member : link ∈ (s.vertex p.vertex).links) : s.ClearPath (p.along link) := by
  have fits := proper.links p.vertex path.clear link member
  unfold Path.along
  split
  · next t tree => exact ⟨List.forall_mem_cons.mpr ⟨fits.grown t tree, path.grown⟩, fits.below⟩
  · exact ⟨path.grown, fits.below⟩

/-- A walk down an open version meets only grown trees and clear vertices. -/
theorem Proper.walk {σ : Type} (proper : s.Proper n) (free : s.Open i) (memory : σ) (visit : σ → Path → σ × Visit) :
    ∀ p ∈ (s.walk i memory visit).2, s.ClearPath p := by
  have start : s.ClearPath ⟨(s.version i).top, [], 0⟩ := ⟨List.forall_mem_nil _, free⟩
  intro p taken
  exact (walk_forall i memory start (fun _ _ path _ _ member => proper.clearPath_along path member) p taken).1

theorem Proper.addSlices (proper : s.Proper n) (i : Nat) (clear : ∀ p ∈ paths, s.ClearPath p) :
    s.Grows s.size (s.addSlices i paths).1 ∧ ∀ slice ∈ (s.addSlices i paths).2, ∀ t ∈ slice.trees, t.Grown := by
  have sliced := sliced_addSlices s i paths
  refine ⟨sliced.grows proper fun p among => (clear p among).clear, fun slice member => ?_⟩
  obtain ⟨_, p, among, trees, _⟩ := sliced.slices slice member
  rw [trees]
  exact (clear p among).grown

theorem Proper.pop (proper : s.Proper n) (free : s.Open i) (count : Nat) :
    s.Grows s.size (s.pop i count).1 ∧ ∀ slice ∈ (s.pop i count).2, ∀ t ∈ slice.trees, t.Grown :=
  proper.addSlices i (proper.walk free () _)

/-- Trees that lie on a path of the table down from a state, so many of them no extras. -/
structure Row (goal : StateId) (count : Nat) (trees : List Tree) : Prop where
  grown : ∀ t ∈ trees, t.Grown
  length : (Tree.partsOf trees).length = count
  reaches : ∃ state, Grammar.Reaches goal state (Tree.partsOf trees)

/-- A path whose trees lie on a path of the table down from a state, where extras are not counted. -/
structure RowPath (s : Stack) (goal : StateId) (p : Path) : Prop where
  clear : s.Clear p.vertex
  length : (Tree.partsOf p.trees).length = p.count
  reaches : Grammar.Reaches goal (s.stateAt p.vertex) (Tree.partsOf p.trees)

theorem Proper.rowPath_along (proper : s.Proper n) {goal : StateId} (known : goal ≠ StateId.recovery) {p : Path}
    (row : s.RowPath goal p) {link : Link} (member : link ∈ (s.vertex p.vertex).links) :
    s.RowPath goal (p.along link) := by
  obtain ⟨clear, length, reaches⟩ := row
  have fits := proper.links p.vertex clear link member
  obtain ⟨t, tree, ⟨extra, same⟩ | ⟨plain, leads⟩⟩ := fits.onward (reaches.source known)
  · -- An extra leaves the state as it is, and is no step of the path.
    rw [Path.along, Option.mem_def.mp tree]
    refine ⟨fits.below, ?_, ?_⟩
    · simpa [Tree.partsOf_cons, extra] using length
    · simpa [Tree.partsOf_cons, extra, same] using reaches
  · rw [Path.along, Option.mem_def.mp tree]
    refine ⟨fits.below, ?_, ?_⟩
    · simpa [Tree.partsOf_cons, plain] using length
    · simpa [Tree.partsOf_cons, plain] using reaches.step leads

/-- Outside of recovery the trees that are taken off lie on a path of the table. -/
theorem Proper.pop_row (proper : s.Proper n) (free : s.Open i) (known : s.state i ≠ StateId.recovery) (count : Nat) :
    ∀ slice ∈ (s.pop i count).2, Row (s.state i) count slice.trees := by
  have grown := (proper.pop free count).2
  have start : s.RowPath (s.state i) ⟨(s.version i).top, [], 0⟩ := ⟨free, rfl, .here⟩
  intro slice member
  obtain ⟨_, p, among, trees, _⟩ := (sliced_addSlices s i _).slices slice member
  obtain ⟨row, _, taken⟩ :=
    walk_forall i () start (fun _ _ row _ _ member => proper.rowPath_along known row member) p among
  refine ⟨grown slice member, ?_, s.stateAt p.vertex, trees ▸ row.reaches⟩
  -- A walk that counts takes paths of the given length only.
  rw [trees, row.length]
  exact eq_of_beq taken

end Slices

/-! ### The end of a text -/

section Ends

variable {s : Stack} {n i k : Nat} {t root : Tree} {l : Leaf} {state : StateId} {paths : List Path}

/-- A stack of which one version has come to the end of the text, so that nothing is known of its top. -/
structure Ending (i : Nat) (s : Stack) : Prop extends s.Grounded where
  others : ∀ k, k ≠ i → ∀ version, s.versions[k]? = some version → version.Fits s.Clear

theorem Proper.ending (proper : s.Proper n) (i : Nat) : s.Ending i :=
  ⟨proper.toGrounded, fun _ _ version here => proper.versions version (List.mem_of_getElem? here)⟩

theorem Ending.push (ending : s.Ending i) (final : t.isFinal = true) : (s.push i (some t) state).Ending i := by
  refine ⟨ending.toGrounded.push fun inner => ?_, fun k other version here => ?_⟩
  · exact absurd (final.symm.trans (inner t rfl)) (by decide)
  · refine (ending.others k other version ?_).mono fun _ => clear_push
    exact (List.getElem?_modify_ne _ _ (Ne.symm other)).symm.trans here

theorem Ending.addSlices (ending : s.Ending i) (j : Nat) (clear : ∀ p ∈ paths, s.Clear p.vertex) :
    (s.addSlices j paths).1.Ending i := by
  have sliced := sliced_addSlices s j paths
  obtain ⟨more, all, _⟩ := sliced.versions
  have fits := sliced.fits clear all
  generalize s.addSlices j paths = acc at sliced all
  obtain ⟨⟨vertices, versions⟩, slices⟩ := acc
  cases sliced.vertices
  cases all
  refine ⟨⟨ending.bottom, ending.ground, ending.links⟩, fun k other version here => ?_⟩
  by_cases within : k < s.versions.length
  · exact ending.others k other version ((List.getElem?_append_left within).symm.trans here)
  · exact fits version (List.mem_of_getElem? ((List.getElem?_append_right (Nat.not_lt.mp within)).symm.trans here))

theorem Ending.remove (ending : s.Ending i) (later : i < k) : (s.remove k).Ending i := by
  refine ⟨⟨ending.bottom, ending.ground, ending.links⟩, fun j other version here => ?_⟩
  rw [Stack.remove, List.getElem?_eraseIdx] at here
  split_ifs at here
  · exact ending.others j other version here
  · exact ending.others (j + 1) (by omega) version here

theorem Ending.halt (ending : s.Ending i) (size : n ≤ s.size) : (s.halt i).Proper n := by
  refine ⟨⟨ending.bottom, ending.ground, ending.links⟩, size.trans_eq (List.length_modify ..).symm, fun version member => ?_⟩
  rcases mem_modify_cases member with ⟨k, other, here⟩ | ⟨old, _, rfl⟩
  · exact ending.others k other version here
  · exact Version.fits_halted rfl _

/-- Whatever whole text is made of the trees is one that a text can have. -/
def Whole (trees : List Tree) : Prop := ∀ root, Session.rootOf trees = some root → root.IsWhole

theorem rootOf_eq (trees : List Tree) : Session.rootOf trees = (Tree.headOf trees).map (fun t =>
    Tree.ofChildren t.symbol t.production
      ((Tree.splitExtras trees).1.dropLast ++ t.children ++ (Tree.splitExtras trees).2) false) := by
  rw [← Tree.getLast?_splitExtras]
  unfold Session.rootOf
  dsimp only
  cases (Tree.splitExtras trees).1.getLast? <;> rfl

theorem split_of_headOf {trees : List Tree} (heads : Tree.headOf trees = some t) :
    (Tree.splitExtras trees).1.dropLast ++ t :: (Tree.splitExtras trees).2 = trees := by
  rw [← Tree.getLast?_splitExtras] at heads
  have front := List.dropLast_append_getLast? t (Option.mem_def.mpr heads)
  rw [← List.singleton_append, ← List.append_assoc, front, Tree.splitExtras_append]

theorem whole_of_stands {trees : List Tree} (stands : ∀ t ∈ trees, t.Stands) : Whole trees := by
  intro root found
  rw [rootOf_eq] at found
  obtain ⟨t, heads, rfl⟩ := Option.map_eq_some_iff.mp found
  refine Tree.isWhole_of_stands ?_ (Tree.getLast?_partsOf heads).1
  rwa [split_of_headOf heads]

theorem whole_of_error {trees : List Tree} (written : ∀ t ∈ trees, t.Written)
    (heads : ∀ t ∈ Tree.headOf trees, t.symbol = Symbol.error ∧ t.children = []) : Whole trees := by
  intro root found
  rw [rootOf_eq] at found
  obtain ⟨t, first, rfl⟩ := Option.map_eq_some_iff.mp found
  obtain ⟨error, empty⟩ := heads t first
  rw [error]
  refine Tree.isWhole_error _ ?_
  rw [← split_of_headOf first, List.forall_mem_append, List.forall_mem_cons] at written
  rw [empty, List.append_nil, List.forall_mem_append]
  exact ⟨written.1, written.2.2⟩

/-- How the paths down to the bottom are looked for. -/
def visitEnd (s : Stack) (_ : Unit) (p : Path) : Unit × Visit := ((), ⟨(s.vertex p.vertex).links.isEmpty, false⟩)

/-- A stack of which one version has come to the end of the text, and to whole trees of it. -/
structure Ends (i : Nat) (s : Stack) : Prop extends s.Ending i where
  whole : ∀ p ∈ (s.walk i () s.visitEnd).2, s.Clear p.vertex ∧ Whole p.trees

theorem Ends.popAll (ends : s.Ends i) : (s.popAll i).1.Ending i ∧ s.size ≤ (s.popAll i).1.size ∧
    ∀ slice ∈ (s.popAll i).2, (s.size ≤ slice.version ∧ slice.version < (s.popAll i).1.size) ∧ Whole slice.trees := by
  have sliced := sliced_addSlices s i (s.walk i () s.visitEnd).2
  refine ⟨ends.addSlices i fun p among => (ends.whole p among).1, ?_, fun slice member => ?_⟩
  · obtain ⟨more, all, _⟩ := sliced.versions
    have length := congrArg List.length all
    rw [List.length_append] at length
    exact (Nat.le_add_right _ _).trans length.ge
  · obtain ⟨bounds, p, among, trees, _⟩ := sliced.slices slice member
    rw [trees]
    exact ⟨bounds, (ends.whole p among).2⟩

/-- A path down from the end of a text behind a markup: it is still at the end, or below it only markups and extras were
met. -/
inductive BelowMarkup (s : Stack) (last : Nat) (p : Path) : Prop where
  | finish (here : p.vertex = last) (empty : p.trees = [])
  | behind (clear : s.Clear p.vertex)
      (place : s.stateAt p.vertex = StateId.behindMarkup ∨ s.stateAt p.vertex = StateId.start)
      (stands : ∀ t ∈ p.trees, t.Stands)

theorem Grounded.belowMarkup_along (grounded : s.Grounded) {last : Nat} {p : Path} (clear : s.Clear p.vertex)
    (place : s.stateAt p.vertex = StateId.behindMarkup ∨ s.stateAt p.vertex = StateId.start)
    (stands : ∀ t ∈ p.trees, t.Stands) {link : Link} (member : link ∈ (s.vertex p.vertex).links) :
    s.BelowMarkup last (p.along link) := by
  have fits := grounded.links p.vertex clear link member
  have further {t : Tree} (tree : link.tree = some t) (kind : t.extra = true ∨ t.symbol = Symbol.markup)
      (place' : s.stateAt link.target = StateId.behindMarkup ∨ s.stateAt link.target = StateId.start) :
      s.BelowMarkup last (p.along link) := by
    rw [Path.along, tree]
    exact .behind fits.below place' (List.forall_mem_cons.mpr ⟨⟨Or.inl (fits.grown t tree), kind⟩, stands⟩)
  rcases place with behind | start
  · rw [behind] at fits
    obtain ⟨t, tree, ⟨markup, _, below⟩ | ⟨extra, below⟩⟩ := fits.behindMarkup
    · exact further tree (Or.inr markup) (Or.inr below)
    · exact further tree (Or.inl extra) (Or.inl below)
  · rw [start] at fits
    obtain ⟨t, tree, extra, below⟩ := fits.start
    exact further tree (Or.inl extra) (Or.inr below)

/-- Behind a markup there are only markups and extras, down to the start of the text. -/
theorem Proper.ends_push (proper : s.Proper n) (valid : i < s.size) (free : s.Open i)
    (stands : s.state i = StateId.behindMarkup) (finish : Tree.IsEnd (.leaf l)) :
    (s.push i (some (.leaf l)) StateId.start).Ends i := by
  obtain ⟨_, ⟨⟩, symbol, extra⟩ := finish
  have ending : (s.push i (some (.leaf l)) StateId.start).Ending i := (proper.ending i).push (beq_iff_eq.mpr symbol)
  have top : ((s.push i (some (.leaf l)) StateId.start).version i).top = s.vertices.size := top_push_self valid
  have only := (s.vertex_push_size i (some (.leaf l)) StateId.start).2
  have below : (s.push i (some (.leaf l)) StateId.start).stateAt (s.version i).top = StateId.behindMarkup :=
    (stateAt_push (stands.trans_ne (by decide))).trans stands
  have clear : (s.push i (some (.leaf l)) StateId.start).Clear (s.version i).top := clear_push free
  generalize s.push i (some (.leaf l)) StateId.start = s' at *
  have start : s'.BelowMarkup s.vertices.size ⟨(s'.version i).top, [], 0⟩ := .finish top rfl
  have along (p : Path) (holds : s'.BelowMarkup s.vertices.size p) :
      ∀ link ∈ (s'.vertex p.vertex).links, s'.BelowMarkup s.vertices.size (p.along link) := by
    intro link member
    cases holds with
    | finish here empty =>
      -- The one link at the end carries the token of the end, and leads to where the markup lies.
      rw [here, only, List.mem_singleton] at member
      subst member
      refine .behind clear (Or.inl below) ?_
      rw [Path.along, empty]
      exact List.forall_mem_singleton.mpr ⟨Or.inr ⟨l, rfl, symbol, extra⟩, Or.inl extra⟩
    | behind opened place trees => exact ending.belowMarkup_along opened place trees member
  refine ⟨ending, fun p among => ?_⟩
  obtain ⟨holds, _, taken⟩ := walk_forall i () start (fun _ p holds _ => along p holds) p among
  cases holds with
  | finish here =>
    rw [visitEnd, here, only] at taken
    cases taken
  | behind opened _ trees => exact ⟨opened, whole_of_stands trees⟩

/-- A path down from the end of a text that has come to an error: it is still at the end, or at the error below it, or that
error heads the trees that were met. -/
inductive BelowError (s : Stack) (error finish : Tree) (last before : Nat) (p : Path) : Prop where
  | finish (here : p.vertex = last) (empty : p.trees = [])
  | error (here : p.vertex = before) (one : p.trees = [finish])
  | behind (clear : s.Clear p.vertex) (written : ∀ u ∈ p.trees, u.Written) (heads : Tree.headOf p.trees = some error)

theorem Grounded.belowError_along (grounded : s.Grounded) {error finish : Tree} {last before : Nat} {p : Path}
    (clear : s.Clear p.vertex) (written : ∀ u ∈ p.trees, u.Written) (heads : Tree.headOf p.trees = some error) {link : Link}
    (member : link ∈ (s.vertex p.vertex).links) : s.BelowError error finish last before (p.along link) := by
  have fits := grounded.links p.vertex clear link member
  unfold Path.along
  split
  · next u tree =>
    refine .behind fits.below (List.forall_mem_cons.mpr ⟨(fits.grown u tree).written, written⟩) ?_
    rw [Tree.headOf_cons, heads, Option.some_or]
  · exact .behind fits.below written heads

/-- Below the error to which all of a text has come there can be anything. -/
theorem Proper.ends_push_error (proper : s.Proper n) (valid : i < s.size) (free : s.Open i)
    (error : t.symbol = Symbol.error ∧ t.children = []) (plain : t.extra = false) (final : t.isFinal = true)
    (written : t.Written) (finish : Tree.IsEnd (.leaf l)) :
    ((s.push i (some t) StateId.start).push i (some (.leaf l)) StateId.start).Ends i := by
  obtain ⟨_, ⟨⟩, symbol, extra⟩ := finish
  have ending : ((s.push i (some t) StateId.start).push i (some (.leaf l)) StateId.start).Ending i :=
    ((proper.ending i).push final).push (beq_iff_eq.mpr symbol)
  have clear : ((s.push i (some t) StateId.start).push i (some (.leaf l)) StateId.start).Clear (s.version i).top :=
    clear_push (clear_push free)
  have top : (((s.push i (some t) StateId.start).push i (some (.leaf l)) StateId.start).version i).top =
      (s.push i (some t) StateId.start).vertices.size := top_push_self (valid.trans_eq size_push.symm)
  have first := ((s.push i (some t) StateId.start).vertex_push_size i (some (.leaf l)) StateId.start).2
  have second : (((s.push i (some t) StateId.start).push i (some (.leaf l)) StateId.start).vertex s.vertices.size).links =
      [⟨(s.version i).top, some t⟩] := by
    rw [vertex_push_of_ne (by simp), (s.vertex_push_size i (some t) StateId.start).2]
  rw [top_push_self valid] at first
  generalize (s.push i (some t) StateId.start).push i (some (.leaf l)) StateId.start = s' at *
  generalize (s.push i (some t) StateId.start).vertices.size = last at top first
  have start : s'.BelowError t (.leaf l) last s.vertices.size ⟨(s'.version i).top, [], 0⟩ := .finish top rfl
  have along (p : Path) (holds : s'.BelowError t (.leaf l) last s.vertices.size p) :
      ∀ link ∈ (s'.vertex p.vertex).links, s'.BelowError t (.leaf l) last s.vertices.size (p.along link) := by
    intro link member
    cases holds with
    | finish here empty =>
      rw [here, first, List.mem_singleton] at member
      subst member
      rw [Path.along, empty]
      exact .error rfl rfl
    | error here one =>
      -- The error is put in front of the end of the text, which is an extra, so from here on the error is the head.
      rw [here, second, List.mem_singleton] at member
      subst member
      have leaf : (Tree.leaf l).Written := .leaf (by rw [symbol]; decide)
      have behind : (Tree.leaf l).extra = true := extra
      rw [Path.along, one]
      refine .behind clear ?_ (by simp [Tree.headOf, plain, behind])
      exact List.forall_mem_cons.mpr ⟨written, List.forall_mem_singleton.mpr leaf⟩
    | behind opened trees heads => exact ending.belowError_along opened trees heads member
  refine ⟨ending, fun p among => ?_⟩
  obtain ⟨holds, _, taken⟩ := walk_forall i () start (fun _ p holds _ => along p holds) p among
  cases holds with
  | finish here =>
    rw [visitEnd, here, first] at taken
    cases taken
  | error here =>
    rw [visitEnd, here, second] at taken
    cases taken
  | behind opened trees heads =>
    refine ⟨opened, whole_of_error trees fun u head => ?_⟩
    rw [heads, Option.mem_some_iff] at head
    exact head ▸ error

end Ends

/-! ### The error on top -/

section Errors

variable {s : Stack} {n i k : Nat}

/-- How the paths to an error on top are looked for. -/
def visitError (found : Bool) (p : Path) : Bool × Visit :=
  match p.trees with
  | [] => (found, ⟨false, false⟩)
  | _ =>
    let here := !found && (p.trees.getLast?.any Tree.isError)
    (found || here, ⟨here, true⟩)

theorem popError_eq (s : Stack) (i : Nat) : s.popError i =
    if (s.topOf i).links.any (fun l => l.tree.any Tree.isError) then
      let popped := s.addSlices i (s.walk i false visitError).2
      match popped.2 with
      | [] => (popped.1, [])
      | slice :: _ => (popped.1.replace slice.version i, slice.trees)
    else (s, []) := by
  unfold Stack.popError
  split_ifs <;> rfl

theorem vertices_replace (source : Nat) : (s.replace source i).vertices = s.vertices := by
  unfold Stack.replace
  split_ifs <;> rfl

theorem top_replace {source : Nat} (later : i < source) (valid : source < s.size) :
    ((s.replace source i).version i).top = (s.version source).top := by
  rw [Stack.replace, if_neg (Nat.ne_of_gt later)]
  simp only [version, List.getD_eq_getElem?_getD, List.getElem?_eraseIdx_of_lt later,
    List.getElem?_set_self (later.trans valid)]
  rfl

theorem state_replace {source : Nat} (later : i < source) (valid : source < s.size) :
    (s.replace source i).state i = s.state source := by
  rw [state, topOf, vertex, top_replace later valid, vertices_replace]
  rfl

theorem keeps_replace {source : Nat} (later : i < source) : s.Keeps i (s.replace source i) := by
  refine ⟨extends_of_vertices (vertices_replace source), fun k within => ?_⟩
  rw [Stack.replace, if_neg (Nat.ne_of_gt later)]
  simp only [version, List.getD_eq_getElem?_getD, List.getElem?_eraseIdx_of_lt (within.trans later),
    List.getElem?_set_ne (Nat.ne_of_gt within)]

theorem open_set {source : Nat} {moved : Version} (opened : s.Open k) (free : s.Open source)
    (top : moved.top = (s.version source).top) : Open { s with versions := s.versions.set i moved } k := by
  show s.Clear (List.getD (s.versions.set i moved) k _).top
  rw [List.getD_eq_getElem?_getD, List.getElem?_set]
  split_ifs with own valid
  · exact top ▸ free
  · rw [Open, version_beyond (own ▸ Nat.not_lt.mp valid)] at opened
    exact opened
  · exact opened

theorem replace_eq {source : Nat} (other : source ≠ i) : s.replace source i =
    Stack.remove { s with versions := s.versions.set i { s.version source with
      ancestors := (s.version source).ancestors <|> (s.version i).ancestors } } source := by
  rw [Stack.replace, if_neg other]
  rfl

theorem open_replace {source : Nat} (opened : s.Open k) (free : s.Open source) (before : k < source) :
    (s.replace source i).Open k := by
  by_cases same : source = i
  · rwa [Stack.replace, if_pos same]
  · rw [replace_eq same, Open, version_remove_of_lt before]
    exact open_set opened free rfl

theorem OpenFrom.replace {source : Nat} (free : s.OpenFrom n) (here : n ≤ source) (i : Nat) : (s.replace source i).OpenFrom n := by
  by_cases same : source = i
  · rwa [Stack.replace, if_pos same]
  · rw [replace_eq same]
    refine OpenFrom.remove (fun k later => ?_) source
    exact open_set (free k later) (free source here) rfl

/-- A path to an error on top of a version: it has met nothing yet, or one tree, and if that is an error the state below
it is the one above it. -/
inductive ToError (s : Stack) (i : Nat) (p : Path) : Prop where
  | start (empty : p.trees = []) (here : p.vertex = (s.version i).top)
  | tree {t : Tree} (one : p.trees = [t]) (below : t.isError = true → s.stateAt p.vertex = s.state i)

theorem Proper.toError_along (proper : s.Proper n) (free : s.Open i) (known : s.state i ≠ StateId.recovery) {p : Path}
    (holds : s.ToError i p) {found : Bool} (goes : (visitError found p).2.stop = false) {link : Link}
    (member : link ∈ (s.vertex p.vertex).links) : s.ToError i (p.along link) := by
  cases holds with
  | start empty here =>
    rw [here] at member
    have fits := proper.links _ free link member
    obtain ⟨t, tree, fits⟩ := fits.onward known
    refine .tree (t := t) ?_ fun error => ?_
    · rw [Path.along, Option.mem_def.mp tree, empty]
    · rw [Path.along, Option.mem_def.mp tree]
      rcases fits with ⟨_, below⟩ | ⟨_, leads⟩
      · exact below
      · -- No step of the table is made with an error.
        have symbol := leads.facts.known
        rw [show t.symbol = Symbol.error from eq_of_beq error] at symbol
        exact absurd symbol (by decide)
  | tree one =>
    -- Paths of one tree are not followed further, so nothing has to be known of longer ones.
    simp [visitError, one] at goes

/-- Outside of recovery an error on top leaves the state. -/
theorem visitError_state (proper : s.Proper n) (free : s.Open i) (known : s.state i ≠ StateId.recovery) :
    ∀ p ∈ (s.walk i false visitError).2, s.stateAt p.vertex = s.state i := by
  have start : s.ToError i ⟨(s.version i).top, [], 0⟩ := .start rfl rfl
  intro p among
  obtain ⟨holds, found, take⟩ := walk_forall i false start
    (fun _ _ holds goes _ member => proper.toError_along free known holds goes member) p among
  cases holds with
  | start empty => simp [visitError, empty] at take
  | tree one below =>
    refine below ?_
    simp only [visitError, one] at take
    simp at take
    exact take.2

/-- Taking an error off a version loses no version, and outside of recovery leaves that one in its state. -/
theorem Proper.popError (proper : s.Proper n) (free : s.OpenFrom n) (later : n ≤ i) (valid : i < s.size) :
    s.Grows n (s.popError i).1 ∧ s.size ≤ (s.popError i).1.size ∧ (∀ t ∈ (s.popError i).2, t.Grown) ∧
    (s.state i ≠ StateId.recovery → (s.popError i).1.state i = s.state i) := by
  have opened := free i later
  rw [popError_eq]
  split_ifs
  · have sliced := sliced_addSlices s i (s.walk i false visitError).2
    obtain ⟨now, grown⟩ := proper.addSlices i (proper.walk opened false visitError)
    have wider := now.mono proper.size free
    dsimp only
    split
    · exact ⟨wider, now.proper.size, List.forall_mem_nil _, now.keeps.state valid⟩
    -- The first slice is taken, and its version takes the place of the one that had the error.
    · next slice others slices =>
      have member : slice ∈ (s.addSlices i (s.walk i false visitError).2).2 := by
        rw [slices]
        exact List.mem_cons_self ..
      obtain ⟨⟨lower, upper⟩, p, among, _, top⟩ := sliced.slices slice member
      have behind := Nat.lt_of_lt_of_le valid lower
      have replaced := (now.proper.atLeast (Nat.succ_le_of_lt (Nat.lt_of_le_of_lt lower upper))).replace slice.version i
      have kept : s.Grows n ((s.addSlices i (s.walk i false visitError).2).1.replace slice.version i) :=
        wider.trans ⟨replaced.mono proper.size, (keeps_replace behind).mono later,
          wider.free.replace (later.trans (Nat.le_of_lt behind)) i⟩
      refine ⟨kept, replaced.size, grown slice member, fun known => ?_⟩
      rw [state_replace behind upper, state, topOf, top, vertex, sliced.vertices]
      exact visitError_state proper opened known p among
  · exact ⟨proper.grows free, Nat.le_refl _, List.forall_mem_nil _, fun _ => rfl⟩

end Errors

end Ucode.Parse.Stack

import Ucode.Parse.Recovery
import Ucode.Proofs.Parse.Slices

/-!
# Reductions and recovery on a proper stack

Each step of a reduction, and each step by which an error is mended, leaves a proper stack. The versions that a reduction
adds are numbered from those that were there on, and the groups of slices rise; so each group that is dealt with is still
there when its turn comes, however many before it have gone (`Proper.foldl_reduceGroup`). All of this is told with a number of
versions that are certain to stay, because the version in error has to be there when the end of the text is reached.
-/
namespace Ucode.Parse

open Grammar (StateId)

namespace Rule

variable {r : Rule} {goal : StateId} {trees : List Tree} {made : Tree × List Tree}

/-- The rule is one by which the state is reduced. -/
def Applies (r : Rule) (goal : StateId) : Prop := Grammar.Reduces goal r.symbol r.count r.production

/-- What a rule makes of some trees: a node, and the extras behind it. -/
structure Makes (r : Rule) (made : Tree × List Tree) : Prop where
  symbol : made.1.symbol = r.symbol
  plain : made.1.extra = false
  grown : made.1.Grown
  extras : ∀ t ∈ made.2, t.Grown
  extra : ∀ t ∈ made.2, t.extra = true

theorem makes_apply (applies : r.Applies goal) (row : Stack.Row goal r.count trees) : r.Makes (r.apply trees) := by
  obtain ⟨_, reaches⟩ := row.reaches
  exact {
    symbol := rfl
    plain := rfl
    grown := Tree.grown_of_reaches applies reaches row.length row.grown
    extras := (Tree.forall_splitExtras row.grown).2
    extra := fun t => Tree.extra_of_mem_splitExtras }

theorem Makes.improve (old : r.Makes made) (applies : r.Applies goal) (row : Stack.Row goal r.count trees) :
    r.Makes (r.improve made trees) := by
  unfold Rule.improve
  dsimp only
  split_ifs
  · exact makes_apply applies row
  · exact old

theorem Makes.foldl (old : r.Makes made) (applies : r.Applies goal) {rows : List (List Tree)}
    (fit : ∀ trees ∈ rows, Stack.Row goal r.count trees) : r.Makes (rows.foldl r.improve made) := by
  induction rows generalizing made with
  | nil => exact old
  | cons trees rows ih =>
    obtain ⟨next, rest⟩ := List.forall_mem_cons.mp fit
    exact ih (old.improve applies next) rest

theorem makes_of_choose (applies : r.Applies goal) {rows : List (List Tree)} (fit : ∀ trees ∈ rows, Stack.Row goal r.count trees)
    (chosen : r.choose rows = some made) : r.Makes made := by
  cases rows with
  | nil => cases chosen
  | cons first others =>
    cases chosen
    obtain ⟨start, rest⟩ := List.forall_mem_cons.mp fit
    exact (makes_apply applies start).foldl applies rest

end Rule

namespace Stack

/-! ### Groups of slices -/

/-- The slices of two groups have different versions, so groups of slices that rise keep rising. -/
theorem pairwise_groups {groups : List (List Slice)} (rises : groups.flatten.Pairwise (·.version ≤ ·.version))
    (steps : groups.IsChain (fun g h => ∃ ha hb, (g.getLast ha).version ≠ (h.head hb).version)) :
    groups.Pairwise (fun g h => ∀ a ∈ g, ∀ b ∈ h, a.version < b.version) := by
  induction groups with
  | nil => exact .nil
  | cons g groups ih =>
    obtain ⟨inside, others, between⟩ := List.pairwise_append.mp (List.flatten_cons ▸ rises)
    refine List.pairwise_cons.mpr ⟨fun h member a first b second => ?_, ih others steps.tail⟩
    cases groups with
    | nil => cases member
    | cons k groups =>
      obtain ⟨ha, hb, step⟩ := (List.isChain_cons_cons.mp steps).1
      -- From `a` to the end of its group, over the step to the next group, and on to `b`.
      have last : a.version ≤ (g.getLast ha).version :=
        inside.rel_getLast_of_rel_getLast_getLast first (Nat.le_refl _)
      have gap : (g.getLast ha).version ≤ (k.head hb).version := between _ (List.getLast_mem ha) _ (by simp)
      have head : (k.head hb).version ≤ b.version := by
        have within : b ∈ (k :: groups).flatten := List.mem_flatten_of_mem member second
        cases k with
        | nil => exact absurd rfl hb
        | cons x xs =>
          rcases List.mem_cons.mp within with rfl | later
          · exact Nat.le_refl _
          · exact (List.pairwise_cons.mp others).1 b later
      omega

theorem pairwise_splitBy {slices : List Slice} (sorted : slices.Pairwise (·.version ≤ ·.version)) :
    (slices.splitBy (fun a b => a.version == b.version)).Pairwise
      (fun g h => ∀ a ∈ g, ∀ b ∈ h, a.version < b.version) := by
  have chain := List.isChain_getLast_head_splitBy (fun a b : Slice => a.version == b.version) slices
  refine pairwise_groups ?_ (chain.imp fun g h ⟨ha, hb, differ⟩ => ⟨ha, hb, ne_of_beq_false differ⟩)
  rwa [List.flatten_splitBy]

/-! ### Reducing -/

section Reduce

variable {s : Stack} {n i removed : Nat} {r : Rule} {goal : StateId}

theorem Proper.pushNode (proper : s.Proper n) (rule : Symbol.tokenCount ≤ r.symbol) {made : Tree × List Tree}
    (makes : r.Makes made) {version : Nat} (valid : version < s.size) (free : s.Open version) {state : StateId}
    (follows : Grammar.next (s.state version) r.symbol = state) :
    ((s.push version (some made.1) state).pushAll version made.2 state).Proper n ∧
      s.Moves version ((s.push version (some made.1) state).pushAll version made.2 state) := by
  -- A rule makes no token, so the state behind the node is one that the goto map leads to.
  have fits : Link.Fits ⟨(s.version version).top, some made.1⟩ s.stateAt s.Clear state := by
    refine Link.fits_leads makes.grown free makes.plain fun placed => ?_
    rw [makes.symbol, ← follows]
    rcases Grammar.leads_of_next (follows ▸ placed) with leads | ⟨token, _⟩
    · exact leads
    · exact absurd token (Nat.not_lt.mpr rule)
  have moved : s.Moves version (s.push version (some made.1) state) := moves_push fits.inner
  obtain ⟨pushed, moves⟩ := (proper.push fits).pushAll (moved.free version free) makes.extras makes.extra
    fun _ => state_push_self valid
  exact ⟨pushed, moved.trans moves⟩

/-- A group is dealt with, and its version has gone afterwards or is still there. -/
theorem Proper.reduceGroup (proper : s.Proper n) (free : s.OpenFrom n) (applies : r.Applies goal) {group : List Slice}
    (rows : ∀ slice ∈ group, Row goal r.count slice.trees)
    (bounds : ∀ slice ∈ group, n + removed ≤ slice.version ∧ slice.version < s.size + removed) :
    s.Grows n (reduceGroup i r (s, removed) group).1 ∧
      ((reduceGroup i r (s, removed) group).2 = removed ∧ (reduceGroup i r (s, removed) group).1.size = s.size ∨
        group ≠ [] ∧ (reduceGroup i r (s, removed) group).2 = removed + 1 ∧
          (reduceGroup i r (s, removed) group).1.size + 1 = s.size) := by
  have unchanged := proper.grows free
  cases group with
  | nil => exact ⟨unchanged, Or.inl ⟨rfl, rfl⟩⟩
  | cons slice others =>
    obtain ⟨lower, upper⟩ := bounds slice (List.mem_cons_self ..)
    have later : n ≤ slice.version - removed := by omega
    have valid : slice.version - removed < s.size := by omega
    unfold Stack.reduceGroup
    dsimp only
    split_ifs with many
    · -- There are too many versions already, so this one goes as it is.
      refine ⟨unchanged.remove later, Or.inr ⟨List.cons_ne_nil _ _, rfl, ?_⟩⟩
      have size : (s.remove (slice.version - removed)).size = s.size - 1 := List.length_eraseIdx_of_lt valid
      dsimp only
      omega
    · split
      · exact ⟨unchanged, Or.inl ⟨rfl, rfl⟩⟩
      · next node extras chosen =>
        -- The node is put on the version, which then stays or is joined to an earlier one.
        have makes := Rule.makes_of_choose applies (by simpa using rows) chosen
        obtain ⟨pushed, moves⟩ := proper.pushNode applies.rule makes valid (free _ later) rfl
        have grown := unchanged.moves moves later pushed
        split
        · next s' merged =>
          obtain ⟨joined, joins⟩ := pushed.mergeFirst? (Or.inl later) merged
          exact ⟨grown.trans ⟨joined, joins.keeps.mono later, joins.free n grown.free⟩,
            Or.inr ⟨List.cons_ne_nil _ _, rfl, joins.size.trans moves.size⟩⟩
        · exact ⟨grown, Or.inl ⟨rfl, moves.size⟩⟩

theorem Proper.foldl_reduceGroup (proper : s.Proper n) (free : s.OpenFrom n) (applies : r.Applies goal)
    {groups : List (List Slice)} (rows : ∀ group ∈ groups, ∀ slice ∈ group, Row goal r.count slice.trees)
    (rises : groups.Pairwise (fun g h => ∀ a ∈ g, ∀ b ∈ h, a.version < b.version))
    (bounds : ∀ group ∈ groups, ∀ slice ∈ group, n + removed ≤ slice.version ∧ slice.version < s.size + removed) :
    s.Grows n (groups.foldl (Stack.reduceGroup i r) (s, removed)).1 := by
  induction groups generalizing s removed with
  | nil => exact proper.grows free
  | cons group groups ih =>
    obtain ⟨first, others⟩ := List.pairwise_cons.mp rises
    obtain ⟨own, rest⟩ := List.forall_mem_cons.mp bounds
    obtain ⟨trees, below⟩ := List.forall_mem_cons.mp rows
    obtain ⟨now, gone⟩ := proper.reduceGroup (i := i) free applies trees own
    rw [List.foldl_cons]
    generalize Stack.reduceGroup i r (s, removed) group = acc at now gone
    obtain ⟨s', removed'⟩ := acc
    refine now.trans (ih now.proper now.free below others fun h member b inside => ?_)
    obtain ⟨lower, upper⟩ := rest h member b inside
    rcases gone with ⟨same, size⟩ | ⟨some, more, size⟩
    · dsimp only at same size ⊢
      omega
    · -- The version that has gone is lower than all versions that are still to come.
      obtain ⟨a, among⟩ := List.exists_mem_of_ne_nil group some
      have below := first h member a among b inside
      have start := (own a among).1
      dsimp only at more size ⊢
      omega

/-- A reduction keeps all versions that were there, and the version that is told is the first of the others. -/
theorem Proper.reduce (proper : s.Proper n) (free : s.Open i) (applies : r.Applies (s.state i)) :
    s.Grows s.size (s.reduce i r).1 ∧
      ∀ version ∈ (s.reduce i r).2, s.size ≤ version ∧ version < (s.reduce i r).1.size := by
  have sliced := sliced_addSlices s i (s.walk i () (fun _ p => ((), ⟨p.count == r.count, p.count == r.count⟩))).2
  obtain ⟨popped, _⟩ := proper.pop free r.count
  have rows := proper.pop_row free applies.source r.count
  -- The groups hold the slices of the walk, which are of versions that the walk has left.
  have whole : (s.pop i r.count).2 = ((s.pop i r.count).2.splitBy (fun a b => a.version == b.version)).flatten :=
    (List.flatten_splitBy ..).symm
  have reduced : s.Grows s.size (s.reduce i r).1 := by
    refine popped.trans (popped.proper.foldl_reduceGroup popped.free applies (fun group member slice inside => ?_)
      (pairwise_splitBy sliced.sorted) fun group member slice inside => ?_)
    all_goals have among : slice ∈ (s.pop i r.count).2 := whole ▸ List.mem_flatten_of_mem member inside
    · exact rows slice among
    · exact bounds_addSlices s i _ slice among
  refine ⟨reduced, fun version told => ?_⟩
  have more : (if s.size < (s.reduce i r).1.size then some s.size else none) = some version := told
  split_ifs at more with grown
  cases more
  exact ⟨Nat.le_refl _, grown⟩

/-- Reductions that are made one after the other keep all versions that were there, and a version that is told is another one. -/
theorem Proper.reduceAll (proper : s.Proper n) (free : s.Open i) (valid : i < s.size) {rules : List Rule}
    (apply : ∀ r ∈ rules, r.Applies (s.state i)) :
    s.Grows s.size (s.reduceAll i rules).1 ∧
      ∀ version ∈ (s.reduceAll i rules).2, s.size ≤ version ∧ version < (s.reduceAll i rules).1.size := by
  have all : ∀ (rules : List Rule) (acc : Stack × Option Nat), (∀ r ∈ rules, r.Applies (s.state i)) →
      (s.Grows s.size acc.1 ∧ ∀ version ∈ acc.2, s.size ≤ version ∧ version < acc.1.size) →
      let done := rules.foldl (fun (acc : Stack × Option Nat) r => acc.1.reduce i r) acc
      s.Grows s.size done.1 ∧ ∀ version ∈ done.2, s.size ≤ version ∧ version < done.1.size := by
    intro rules
    induction rules with
    | nil => exact fun acc _ kept => kept
    | cons r rules ih =>
      intro acc apply ⟨grown, _⟩
      obtain ⟨first, others⟩ := List.forall_mem_cons.mp apply
      -- The version itself stays in its state, so the other rules apply to it as well.
      have same := grown.keeps.state valid first.source
      obtain ⟨now, more⟩ := grown.proper.reduce (grown.keeps.open valid free) (r := r) (same ▸ first)
      refine ih _ others ⟨grown.trans (now.mono grown.proper.size grown.free), fun version told => ?_⟩
      obtain ⟨lower, upper⟩ := more version told
      exact ⟨grown.proper.size.trans lower, upper⟩
  exact all rules (s, none) apply ⟨(proper.atLeast (Nat.le_refl _)).grows proper.openFrom, fun version none => nomatch none⟩

end Reduce

/-! ### Recovery -/

section Recovery

variable {s s' s'' : Stack} {n m i j k : Nat} {token : Symbol} {state : StateId}

/-- Work on a version and on those that come of it: they are open, and so many versions stay, the first of them where they were. -/
structure Works (m i n : Nat) (s s' : Stack) : Prop where
  proper : s'.Proper n
  keeps : s.Keeps m s'
  opened : s'.Open i
  free : s'.OpenFrom n

theorem Works.trans (first : s.Works m i n s') (second : s'.Works m i n s'') : s.Works m i n s'' :=
  ⟨second.proper, first.keeps.trans second.keeps, second.opened, second.free⟩

theorem Grows.open (grows : s.Grows n s') (free : s.Open k) : s'.Open k := by
  by_cases within : k < n
  · exact grows.keeps.open within free
  · exact grows.free k (Nat.not_lt.mp within)

theorem Grows.works (grows : s.Grows n s') (fewer : m ≤ n) (opened : s.Open i) : s.Works m i n s' :=
  ⟨grows.proper, grows.keeps.mono fewer, grows.open opened, grows.free⟩

/-- A version to which a reduction has led takes the place of the reduced one. -/
theorem Grows.replace (grows : s.Grows n s') (size : n ≤ s.size) (fewer : m ≤ n) (opened : s.Open k) (least : m ≤ i)
    (later : i < j) (lower : s.size ≤ j) (upper : j < s'.size) : s.Works m k n (s'.replace j i) := by
  have behind : n ≤ j := size.trans lower
  -- The exchange costs a version, so one more than needed has to be there.
  have more := grows.proper.atLeast (Nat.succ_le_of_lt (Nat.lt_of_le_of_lt behind upper))
  refine ⟨more.replace j i, (grows.keeps.mono fewer).trans ((keeps_replace later).mono least), ?_, grows.free.replace behind i⟩
  by_cases within : n ≤ k
  · exact grows.free.replace behind i k within
  · exact open_replace (grows.open opened) (grows.free j behind) (Nat.lt_of_lt_of_le (Nat.not_le.mp within) behind)

theorem Works.grows (works : s.Works n i n s') : s.Grows n s' := ⟨works.proper, works.keeps, works.free⟩

theorem applies_addRules {rules : List Rule} {actions : List Grammar.Action} (apply : ∀ r ∈ rules, r.Applies state)
    (table : ∀ action ∈ actions, ∃ token, action ∈ Grammar.actions state token) :
    ∀ r ∈ addRules rules actions, r.Applies state := by
  unfold addRules
  induction actions generalizing rules with
  | nil => exact apply
  | cons action actions ih =>
    obtain ⟨⟨token, member⟩, others⟩ := List.forall_mem_cons.mp table
    refine ih ?_ others
    dsimp only
    split
    · split_ifs
      · exact apply
      · refine List.forall_mem_append.mpr ⟨apply, fun r new => ?_⟩
        cases List.mem_singleton.mp new
        exact Grammar.reduces_of_mem member
    · exact apply

theorem applies_candidates (tokens : List Symbol) (state : StateId) :
    ∀ r ∈ (tokens.map (Grammar.actions state)).foldl addRules [], r.Applies state := by
  have all : ∀ (tokens : List Symbol) (rules : List Rule), (∀ r ∈ rules, r.Applies state) →
      ∀ r ∈ (tokens.map (Grammar.actions state)).foldl addRules rules, r.Applies state := by
    intro tokens
    induction tokens with
    | nil => exact fun rules apply => apply
    | cons token tokens ih =>
      exact fun rules apply => ih _ (applies_addRules apply fun action member => ⟨token, member⟩)
  exact all tokens [] (List.forall_mem_nil _)

/-- In each round either a version goes that has come of the reductions, or the number of versions grows. Only before the
end of the text can the version itself be the first of them. -/
theorem Proper.reduceRounds (proper : s.Proper n) (free : s.OpenFrom n) {start : Nat} (opened : s.Open start)
    (low : m ≤ n) (low' : m ≤ start) (first fuel round : Nat) (shiftable : Bool)
    (later : n ≤ i ∨ (i = start ∧ start < first ∧ token = Symbol.finish)) :
    s.Works m start n (s.reduceRounds start first token fuel round i shiftable).1 := by
  induction fuel generalizing s round i shiftable with
  | zero => exact ⟨proper, .refl m s, opened, free⟩
  | succ fuel ih =>
    -- A step that goes on with an open start can be followed by the rounds that are left.
    have onward {s' : Stack} (works : s.Works m start n s') (round : Nat) {j : Nat} (shiftable : Bool)
        (later : n ≤ j ∨ (j = start ∧ start < first ∧ token = Symbol.finish)) :
        s.Works m start n (s'.reduceRounds start first token fuel round j shiftable).1 :=
      works.trans (ih works.proper works.free works.opened round shiftable later)
    rw [Stack.reduceRounds]
    dsimp only
    split
    · exact ⟨proper, .refl m s, opened, free⟩
    · next present =>
      split
      · next s' merged =>
        have behind : n ≤ i := by
          rcases later with later | ⟨rfl, before, _⟩
          · exact later
          · -- There is no version before the first one to join it to.
            rw [List.drop_eq_nil_of_le (by simpa using Nat.le_of_lt before)] at merged
            cases merged
        obtain ⟨joined, joins⟩ := proper.mergeFirst? (Or.inl behind) merged
        have grows : s.Grows n s' := ⟨joined, joins.keeps.mono behind, joins.free n free⟩
        exact onward (grows.works low opened) _ _ (Or.inl behind)
      · have valid : i < s.size := Nat.not_le.mp present
        have here : s.Open i := later.elim (free i) fun own => own.1 ▸ opened
        -- Whichever version comes next was not there before the reductions.
        have next : n ≤ if i = start then s.size else i + 1 := by
          split_ifs with own
          · exact proper.size
          · exact Nat.le_succ_of_le (later.resolve_right fun start => own start.1)
        obtain ⟨reduced, more⟩ := proper.reduceAll here valid (applies_candidates (candidateTokens token) (s.state i))
        have grows : s.Grows n _ := reduced.mono proper.size free
        have works := grows.works low opened
        generalize (if i = start then s.size else i + 1) = j at next ⊢
        split
        · exact onward works _ _ (Or.inl next)
        · split
          · next version told _ =>
            obtain ⟨lower, upper⟩ := more version told
            have least : m ≤ i := later.elim low.trans fun own => own.1 ▸ low'
            exact onward (grows.replace proper.size low opened least (Nat.lt_of_lt_of_le valid lower) lower upper) _ _ later
          · refine onward ?_ _ _ (Or.inl next)
            split_ifs with finish
            · exact works
            · have behind := later.resolve_right fun own => finish own.2.2
              exact (grows.remove behind).works low opened

theorem Proper.reduceFor (proper : s.Proper n) (token : Symbol) (free : s.OpenFrom n) (opened : s.Open i) (low : m ≤ n) (low' : m ≤ i)
    (later : n ≤ i ∨ (i < s.size ∧ token = Symbol.finish)) : s.Works m i n (s.reduceFor i token).1 :=
  proper.reduceRounds free opened low low' s.size _ 0 false (later.imp_right fun ⟨before, finish⟩ => ⟨rfl, before, finish⟩)

theorem Proper.grows_copy (proper : s.Proper n) (free : s.OpenFrom n) (opened : s.Open i) : s.Grows n (s.copy i) := by
  -- The copy stands behind all others, and nobody else has moved.
  have version_eq (k : Nat) : (s.copy i).version k = if k = s.size then { s.version i with ancestors := none } else s.version k := by
    simp only [Stack.version, Stack.copy, List.getD_eq_getElem?_getD, List.getElem?_append, Stack.size]
    split_ifs with before same last
    · exact absurd before (by omega)
    · rfl
    · simp [last]
    · have beyond : s.versions.length < k := by omega
      rw [List.getElem?_eq_none (by simpa using by omega), List.getElem?_eq_none (Nat.le_of_lt beyond)]
  refine ⟨(proper.copy i).mono (Nat.le_succ n), ⟨extends_of_vertices rfl, fun k within => ?_⟩, fun k later => ?_⟩
  · rw [version_eq, if_neg (Nat.ne_of_lt (Nat.lt_of_lt_of_le within proper.size))]
  · rw [Open, version_eq]
    split_ifs
    · exact opened
    · exact free k later

theorem state_copy (s : Stack) (i : Nat) : (s.copy i).state s.size = s.state i := by
  simp [Stack.state, topOf, version, copy, Stack.size, vertex]

theorem grown_missingLeaf {symbol : Symbol} (known : symbol < Symbol.tokenCount) (inner : symbol ≠ Symbol.finish)
    (placed : Grammar.next state symbol ≠ StateId.recovery) : (Tree.leaf (missingLeaf symbol)).Grown := by
  refine .leaf (Or.inl known) (fun unwritten => placed ?_) inner fun _ present => absurd present (by simp [missingLeaf, Leaf.isMissing])
  rw [← Grammar.next_unwritten state, ← unwritten]
  rfl

theorem Proper.insertMissing (proper : s.Proper n) (token : Symbol) (free : s.OpenFrom n) (opened : s.Open i) {symbols : List Symbol}
    (tokens : ∀ symbol ∈ symbols, symbol < Symbol.tokenCount ∧ symbol ≠ Symbol.finish) :
    s.Grows n (s.insertMissing i token symbols).1 := by
  induction symbols generalizing s with
  | nil => exact proper.grows free
  | cons symbol symbols ih =>
    obtain ⟨⟨known, inner⟩, others⟩ := List.forall_mem_cons.mp tokens
    rw [Stack.insertMissing]
    dsimp only
    -- One token that does is enough; else the next one is tried on top of what this one has left.
    split_ifs with useless
    · exact ih proper free opened others
    · rw [not_or, not_or] at useless
      obtain ⟨placed, moved, _⟩ := useless
      -- A token either leads to another state or stays there, and such tokens are passed over.
      have leads : Grammar.Leads ((s.copy i).state s.size) symbol (Grammar.next (s.state i) symbol) := by
        rw [state_copy]
        exact (Grammar.leads_of_next placed).resolve_right fun stays => moved stays.2
      have copied := proper.grows_copy free opened
      have leaf := grown_missingLeaf known inner placed
      have inner : ∀ t ∈ some (Tree.leaf (missingLeaf symbol)), t.isFinal = false := by simpa using leaf.isFinal
      have pushed := copied.proper.push (Link.fits_leads leaf (copied.free s.size proper.size) rfl fun _ => leads)
      have moves : (s.copy i).Moves s.size ((s.copy i).push s.size (some (.leaf (missingLeaf symbol)))
          (Grammar.next (s.state i) symbol)) := moves_push inner
      have inserted := copied.moves moves proper.size pushed
      have reduced := (inserted.proper.reduceFor (m := n) token inserted.free (inserted.free s.size proper.size)
        (Nat.le_refl n) proper.size (Or.inl proper.size)).grows
      have grows := inserted.trans reduced
      split
      · next s' done =>
        rw [done] at grows
        exact grows
      · next s' done =>
        rw [done] at grows
        exact grows.trans (ih grows.proper grows.free (grows.open opened) others)

theorem allTokens_spec : ∀ symbol ∈ allTokens, symbol < Symbol.tokenCount ∧ symbol ≠ Symbol.finish := by decide

theorem Works.mark (works : s.Works m i n s') (low : m ≤ n) (low' : m ≤ i) (here : k = i ∨ n ≤ k) :
    s.Works m i n (s'.push k none StateId.recovery) := by
  have clear : s'.Open k := here.elim (fun own => own ▸ works.opened) (works.free k)
  have moves : s'.Moves k (s'.push k none StateId.recovery) := moves_push (by simp)
  refine ⟨works.proper.push (Link.fits_recovery (by simp) clear), ?_, moves.free i works.opened, moves.openFrom works.free⟩
  exact works.keeps.trans (moves.keeps (here.elim (fun own => own ▸ low') low.trans))

theorem Works.markErrors (works : s.Works m i n s') (token : Symbol) (versions : List Nat) (low : m ≤ n) (low' : m ≤ i)
    (here : ∀ k ∈ versions, k = i ∨ n ≤ k) (inserted : Bool) :
    s.Works m i n (s'.markErrors token versions inserted) := by
  induction versions generalizing s' inserted with
  | nil => exact works
  | cons k versions ih =>
    obtain ⟨first, others⟩ := List.forall_mem_cons.mp here
    have clear : s'.Open k := first.elim (fun own => own ▸ works.opened) (works.free k)
    rw [Stack.markErrors]
    cases inserted with
    | true => exact ih (works.mark low low' first) others true
    | false =>
      have grows := works.proper.insertMissing token works.free clear allTokens_spec
      exact ih ((works.trans (grows.works low works.opened)).mark low low' first) others _

theorem Works.mergeTimes (works : s.Works m i n s') (low : m ≤ n) (later : n ≤ j) (before : i < j) (times : Nat) :
    s.Works m i n (s'.mergeTimes k j times) := by
  induction times generalizing s' with
  | zero => exact works
  | succ times ih =>
    rw [Stack.mergeTimes]
    refine ih ?_
    cases merged : s'.merge? k j with
    | none => exact works
    | some s₁ =>
      obtain ⟨joined, joins⟩ := works.proper.merge? (Or.inl later) merged
      exact works.trans ⟨joined, joins.keeps.mono (low.trans later), joins.keeps.open before works.opened, joins.free n works.free⟩

theorem keeps_recordAncestors (n i limit : Nat) : s.Keeps n (s.recordAncestors i limit) :=
  keeps_modifyVersion n i fun _ => rfl

theorem Proper.enterRecovery (proper : s.Proper n) (token : Symbol) (valid : i < s.size) (opened : s.Open i) :
    (s.enterRecovery i token).Proper n ∧ (s.enterRecovery i token).Open i := by
  unfold Stack.enterRecovery
  dsimp only
  have start := proper.atLeast (Nat.le_refl s.size)
  have low := Nat.le_of_lt valid
  have reduced := start.reduceFor Symbol.finish start.openFrom opened low (Nat.le_refl i) (Or.inr ⟨valid, rfl⟩)
  -- All versions that have come of the reductions are marked, and then joined to the first one.
  have marked := reduced.markErrors token (i :: ((List.range (s.reduceFor i Symbol.finish).1.size).drop s.size)) low (Nat.le_refl i) (fun k member => ?_) false
  · have merged := marked.mergeTimes (k := i) low (Nat.le_refl s.size) valid
      ((s.reduceFor i Symbol.finish).1.size - s.size)
    refine ⟨(merged.proper.mono proper.size).modifyKept i fun _ => ⟨rfl, rfl⟩, ?_⟩
    exact (keeps_recordAncestors (i + 1) i _).open (Nat.lt_succ_self i) merged.opened
  · rcases List.mem_cons.mp member with own | new
    · exact Or.inl own
    · obtain ⟨d, _, rfl⟩ := List.mem_iff_getElem.mp new
      refine Or.inr ?_
      rw [List.getElem_drop, List.getElem_range]
      exact Nat.le_add_right _ _

/-- A version that goes back to a state outside of recovery only gets extras there. -/
theorem Proper.goBack (proper : s.Proper n) (free : s.OpenFrom n) {goal : StateId} (known : goal ≠ StateId.recovery)
    (previous : Option Nat) {slice : Slice} (grown : ∀ t ∈ slice.trees, t.Grown) (later : n ≤ slice.version)
    (valid : slice.version < s.size) :
    s.Grows n (goBack goal (s, previous) slice).1 ∧ s.size ≤ (goBack goal (s, previous) slice).1.size := by
  unfold Stack.goBack
  dsimp only
  split_ifs with again elsewhere clean
  · exact ⟨proper.grows free, Nat.le_refl _⟩
  · exact ⟨⟨proper.halt slice.version, keeps_modifyVersion n _ fun _ => rfl, free.modifyVersion _ fun _ => rfl⟩,
      (List.length_modify ..).ge⟩
  -- The version stands in the goal state. An error on top of it is opened up, and what was in it goes into the new one.
  all_goals
    obtain ⟨popped, size, errors, stays⟩ := proper.popError free later valid
    have stands := not_not.mp elsewhere
    rw [stands] at stays
    generalize s.popError slice.version = found at *
    obtain ⟨s', trees⟩ := found
    dsimp only at popped size errors stays clean ⊢
    have back := stays known
    have clear := popped.free slice.version later
    have inner : ∀ t ∈ (trees.head?.map Tree.children).getD [] ++ slice.trees, t.Grown := by
      refine List.forall_mem_append.mpr ⟨?_, grown⟩
      cases trees with
      | nil => exact List.forall_mem_nil _
      | cons t trees => exact (errors t (List.mem_cons_self ..)).children
    obtain ⟨parts, extras⟩ := Tree.forall_splitExtras inner
    have extra (t : Tree) := @Tree.extra_of_mem_splitExtras t ((trees.head?.map Tree.children).getD [] ++ slice.trees)
  · obtain ⟨pushed, moves⟩ := popped.proper.pushAll clear extras extra fun _ => back
    exact ⟨popped.moves moves later pushed, size.trans moves.size.ge⟩
  · have error := @Tree.grown_of_isSkipped Symbol.error 0 _ true rfl (by simp) parts
    have fits : Link.Fits ⟨(s'.version slice.version).top, some (Tree.ofChildren Symbol.error 0 _ true)⟩ s'.stateAt
        s'.Clear goal := Link.fits_extra error clear rfl fun _ => back
    have first : s'.Moves slice.version (s'.push slice.version (some (Tree.ofChildren Symbol.error 0 _ true)) goal) :=
      moves_push fits.inner
    obtain ⟨pushed, moves⟩ := (popped.proper.push fits).pushAll (first.free _ clear) extras extra
      fun _ => state_push_self (Nat.lt_of_lt_of_le valid size)
    have moves := first.trans moves
    exact ⟨popped.moves moves later pushed, size.trans moves.size.ge⟩

/-- The slices that lead to the state are gone through one after the other. None of them loses the version of a later one. -/
theorem Grows.foldl_goBack {goal : StateId} (known : goal ≠ StateId.recovery) {slices : List Slice} {acc : Stack × Option Nat}
    (grows : s.Grows n acc.1) (fit : ∀ slice ∈ slices, (∀ t ∈ slice.trees, t.Grown) ∧ n ≤ slice.version ∧
      slice.version < acc.1.size) : s.Grows n (slices.foldl (Stack.goBack goal) acc).1 := by
  induction slices generalizing acc with
  | nil => exact grows
  | cons slice slices ih =>
    obtain ⟨⟨trees, lower, upper⟩, others⟩ := List.forall_mem_cons.mp fit
    obtain ⟨now, size⟩ := grows.proper.goBack grows.free known acc.2 trees lower upper
    refine ih (grows.trans now) fun later member => ?_
    obtain ⟨trees', lower', upper'⟩ := others later member
    exact ⟨trees', lower', Nat.lt_of_lt_of_le upper' size⟩

theorem Proper.goBackTo (proper : s.Proper n) (opened : s.Open i) (depth : Nat) {goal : StateId}
    (known : goal ≠ StateId.recovery) : s.Grows s.size (s.goBackTo i depth goal).1 := by
  obtain ⟨popped, grown⟩ := proper.pop opened depth
  have bounds : ∀ slice ∈ (s.pop i depth).2, s.size ≤ slice.version ∧ slice.version < (s.pop i depth).1.size :=
    bounds_addSlices s i _
  exact popped.foldl_goBack known fun slice member => ⟨grown slice member, bounds slice member⟩

theorem Proper.dropInactive (proper : s.Proper n) {first : Nat} (earlier : n ≤ first) :
    (s.dropInactive first).Proper n ∧ s.Keeps n (s.dropInactive first) := by
  have size := proper.length
  refine ⟨proper.withVersions ?_ (List.forall_mem_append.mpr ⟨fun version member => ?_, fun version member => ?_⟩),
    extends_of_vertices rfl, fun k within => ?_⟩
  · rw [List.length_append, List.length_take]
    omega
  · exact proper.versions version (List.mem_of_mem_take member)
  · exact proper.versions version (List.mem_of_mem_drop (List.mem_of_mem_filter member))
  · have inside : k < (s.versions.take first).length := by
      rw [List.length_take]
      omega
    simp only [version, Stack.dropInactive, List.getD_eq_getElem?_getD, List.getElem?_append_left inside]
    rw [List.getElem?_take_of_lt (Nat.lt_of_lt_of_le within earlier)]

end Recovery

end Stack
end Ucode.Parse

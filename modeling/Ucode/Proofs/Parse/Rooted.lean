import Ucode.Parse.Run
import Ucode.Proofs.Parse.Reductions
import Ucode.Proofs.Parse.Tokens

/-!
# The root of each tree

A session is proper if its stack is, if the token that was read last can stand in some text, and if the best tree so far
is one that a whole text can have. All steps of a parse keep this: while a version is advanced it stays there and is open, and
between two of its turns nothing is asked of the number of versions. So the tree of each text is a markup or an error, no
symbol in it is that of the token that stands in no text, and it is tidy if it costs nothing.
-/
namespace Ucode
namespace Parse

open Grammar (StateId)

/-! ### Versions -/

namespace Stack

section Versions

variable {s : Stack} {n i : Nat} {token : Leaf}

theorem Proper.setContext (proper : s.Proper n) (i : Nat) (context : Option Template.Snapshot) :
    (s.setContext i context).Proper n := proper.modifyKept i fun _ => ⟨rfl, rfl⟩

theorem Proper.noteContext (proper : s.Proper n) (i : Nat) (token : Leaf) : (Session.noteContext s i token).Proper n := by
  unfold Session.noteContext
  split
  · exact proper.setContext i _
  · exact proper

theorem Proper.resume (proper : s.Proper n) (free : s.Open i) : (s.resume i).Proper n :=
  proper.modifyVersion i fun _ => ⟨fun _ active => (nomatch active), fun _ => free⟩

theorem keeps_resume (n i : Nat) : s.Keeps n (s.resume i) := keeps_modifyVersion n i fun _ => rfl

theorem Proper.pause (proper : s.Proper n) (free : s.Open i) (token' : token.Proper) : (s.pause i token).Proper n := by
  refine proper.modifyVersion i fun _ => ⟨fun other paused => ?_, fun _ => free⟩
  cases paused
  exact token'

theorem Proper.settle (proper : s.Proper n) (i : Nat) : (s.settle i).Proper n := proper.modifyKept i fun _ => ⟨rfl, rfl⟩

theorem keeps_settle (n i : Nat) : s.Keeps n (s.settle i) := keeps_modifyVersion n i fun _ => rfl

theorem Proper.take (proper : s.Proper n) {count : Nat} (enough : n ≤ count) :
    Proper n { s with versions := s.versions.take count } := by
  refine proper.withVersions ?_ fun version member => proper.versions version (List.mem_of_mem_take member)
  rw [List.length_take]
  exact Nat.le_min.mpr ⟨enough, proper.length⟩

theorem keeps_take (s : Stack) (n : Nat) : s.Keeps n { s with versions := s.versions.take n } := by
  refine ⟨extends_of_vertices rfl, fun k within => ?_⟩
  simp only [version, List.getD_eq_getElem?_getD]
  rw [List.getElem?_take_of_lt within]

theorem Proper.standing (proper : s.Proper n) (i : Nat) : (s.standing i).1.Proper n := proper.settle i

theorem Proper.outdoneBy (proper : s.Proper n) (i : Nat) (mine : Standing) (js : List Nat) :
    (outdoneBy i mine js s).1.Proper n ∧ s.Keeps n (outdoneBy i mine js s).1 := by
  induction js generalizing s with
  | nil => exact ⟨proper, .refl n s⟩
  | cons j js ih =>
    unfold Stack.outdoneBy
    have settled := proper.standing j
    have keeps : s.Keeps n (s.standing j).1 := keeps_settle n j
    -- Asking for a standing settles the version, and changes no other.
    generalize s.standing j = result at settled keeps
    obtain ⟨s', standing⟩ := result
    have others := ih settled
    have later := And.intro others.1 (keeps.trans others.2)
    split_ifs with other
    · exact ih proper
    · dsimp only
      cases mine.compare standing with
      | takeRight => exact ⟨settled, keeps⟩
      | preferRight =>
        dsimp only
        split_ifs
        · exact ⟨settled, keeps⟩
        · exact later
      | takeLeft | preferLeft | even => exact later

/-- Comparing a version with others only removes versions, joins and exchanges them. -/
theorem Proper.compareWith (proper : s.Proper 0) (mine : Standing) (fuel i j : Nat) :
    (Session.compareWith mine fuel i j s).1.Proper 0 := by
  induction fuel generalizing s i j with
  | zero => exact proper
  | succ fuel ih =>
    unfold Session.compareWith
    have settled := proper.standing j
    generalize s.standing j = result at settled
    obtain ⟨s', standing⟩ := result
    -- Whatever the verdict is, nothing is asked of the number of versions.
    have removed (k : Nat) : (s'.remove k).Proper 0 := settled.remove (Or.inl (Nat.zero_le k))
    have joined (s₁ : Stack) (merged : s'.merge? j i = some s₁) : s₁.Proper 0 :=
      (settled.merge? (Or.inl (Nat.zero_le i)) merged).1
    split_ifs with placed
    · exact proper
    · dsimp only
      cases standing.compare mine with
      | takeLeft => exact removed i
      | takeRight => exact ih (removed j) (i - 1) j
      | preferLeft | even =>
        dsimp only
        split
        · next s₁ merged => exact joined s₁ merged
        · exact ih settled i (j + 1)
      | preferRight =>
        dsimp only
        split
        · next s₁ merged => exact joined s₁ merged
        · exact ih (settled.swap i j) i (j + 1)

theorem Proper.sortFrom (proper : s.Proper 0) (fuel i : Nat) (least : Option Nat) :
    (Session.sortFrom fuel i least s).1.Proper 0 := by
  induction fuel generalizing s i least with
  | zero => exact proper
  | succ fuel ih =>
    unfold Session.sortFrom
    have settled := proper.standing i
    generalize s.standing i = result at settled
    obtain ⟨s', mine⟩ := result
    have compared := settled.compareWith mine s'.size i 0
    generalize placed : Session.compareWith mine s'.size i 0 s' = placing at compared
    obtain ⟨s₁, placing⟩ := placing
    split_ifs with beyond halted
    · exact proper
    · exact ih (proper.remove (Or.inl (Nat.zero_le i))) i least
    · dsimp only
      rw [placed]
      cases placing <;> exact ih compared _ _

end Versions

end Stack

/-! ### Steps of a parse -/

namespace Session

variable {s : Session} {n i : Nat} {token : Leaf}

/-- A session that remembers only tokens and trees that can be. -/
structure Remembers (s : Session) : Prop where
  last : ∀ l ∈ s.last, l.token.Proper
  finished : ∀ t ∈ s.finished, t.IsWhole

/-- A session with at least so many versions in which only what may be there is. -/
structure Proper (n : Nat) (s : Session) : Prop extends s.Remembers where
  stack : s.stack.Proper n

theorem Remembers.withStack {stack : Stack} (remembers : s.Remembers) (other : stack.Proper n) :
    Proper n { s with stack := stack } := ⟨⟨remembers.last, remembers.finished⟩, other⟩

theorem Proper.mono {m : Nat} (proper : s.Proper n) (fewer : m ≤ n) : s.Proper m :=
  ⟨proper.toRemembers, proper.stack.mono fewer⟩

theorem Proper.halt (proper : s.Proper n) (i : Nat) : Session.Proper n { s with stack := s.stack.halt i } :=
  proper.withStack (proper.stack.halt i)

theorem initial_proper : initial.Proper 1 :=
  ⟨⟨fun _ none => (nomatch none), fun _ none => (nomatch none)⟩, Stack.initial_proper⟩

theorem Proper.nextToken (proper : s.Proper n) (text : List CodePoint) (i : Nat) :
    (s.nextToken text i).1.Proper n ∧ (s.nextToken text i).1.stack = s.stack ∧ (s.nextToken text i).2.Proper := by
  unfold Session.nextToken
  dsimp only
  split
  · next l cached => exact ⟨proper, rfl, proper.last l (Option.filter_eq_some_iff.mp cached).1⟩
  · have read := Situation.read_proper ⟨s.stack.state i, (s.stack.version i).context, s.stack.hasAdvanced i,
      (s.stack.place i).bytes == 0⟩ s.reader (text.drop (s.stack.place i).points)
    refine ⟨⟨⟨fun l told => ?_, proper.finished⟩, proper.stack⟩, rfl, read⟩
    cases told
    exact read

theorem Proper.shift (proper : s.Proper n) (free : s.stack.Open i) (token' : token.Proper) (inner : token.symbol ≠ Symbol.finish)
    {state : StateId} {extra : Bool} (fits : extra = true ∧ s.stack.state i = state ∨
      extra = false ∧ Grammar.Leads (s.stack.state i) token.symbol state) : (s.shift i token state extra).Proper n := by
  have leaf : (Tree.leaf { token with extra := extra }).Grown :=
    .leaf token'.known token'.written inner fun word _ => token'.word (Or.inl word)
  refine proper.withStack ((proper.stack.push ?_).noteContext i _)
  rcases fits with ⟨rfl, stays⟩ | ⟨rfl, leads⟩
  · exact Link.fits_extra leaf free rfl fun _ => stays
  · exact Link.fits_leads leaf free rfl fun _ => leads

theorem Proper.hasBetter {s' : Session} {cost : Nat} {better : Bool} (proper : s.Proper n)
    (told : s.hasBetter i cost = (s', better)) : s'.Proper n ∧ s.stack.Keeps n s'.stack := by
  unfold Session.hasBetter at told
  dsimp only at told
  split_ifs at told
  · cases told
    exact ⟨proper, .refl n _⟩
  · cases told
    obtain ⟨outdone, keeps⟩ := (proper.stack.settle i).outdoneBy i
      ⟨cost, (s.stack.settle i).nodesSinceError i, false⟩ (List.range (s.stack.settle i).size)
    exact ⟨proper.withStack outdone, (Stack.keeps_settle n i).trans keeps⟩

/-! ### Complete trees -/

theorem Remembers.finish (remembers : s.Remembers) {root : Tree} (whole : root.IsWhole) : (s.finish root).Remembers := by
  refine ⟨remembers.last, fun t kept => ?_⟩
  cases kept
  split
  · exact whole
  · next old before =>
    split_ifs
    · exact whole
    · exact remembers.finished old before

theorem Remembers.finishAll (remembers : s.Remembers) {slices : List Stack.Slice}
    (whole : ∀ slice ∈ slices, Stack.Whole slice.trees) :
    (slices.foldl (fun s slice => (rootOf slice.trees).elim s s.finish) s).Remembers := by
  induction slices generalizing s with
  | nil => exact remembers
  | cons slice slices ih =>
    obtain ⟨first, others⟩ := List.forall_mem_cons.mp whole
    rw [List.foldl_cons]
    refine ih ?_ others
    cases found : rootOf slice.trees with
    | none => exact remembers
    | some root => exact remembers.finish (first root found)

/-- A version that comes to whole trees at the end of the text is halted behind them. -/
theorem Remembers.accept (remembers : s.Remembers) (within : i < n) (size : n ≤ s.stack.size)
    (ends : (s.stack.push i (some (.leaf token)) StateId.start).Ends i) : (s.accept i token).Proper n := by
  obtain ⟨ending, more, whole⟩ := ends.popAll
  rw [Stack.size_push] at more whole
  unfold Session.accept
  dsimp only
  generalize (s.stack.push i (some (.leaf token)) StateId.start).popAll i = result at ending whole more
  obtain ⟨stack, slices⟩ := result
  refine (remembers.finishAll fun slice member => (whole slice member).2).withStack ?_
  -- The version that is removed stands behind those that were there before.
  cases slices with
  | nil => exact ending.halt (size.trans more)
  | cons slice others =>
    obtain ⟨⟨lower, upper⟩, _⟩ := whole slice (List.mem_cons_self ..)
    refine (ending.remove (Nat.lt_of_lt_of_le within (size.trans lower))).halt ?_
    rw [Stack.remove, Stack.size, List.length_eraseIdx_of_lt upper]
    exact Nat.le_sub_one_of_lt (Nat.lt_of_le_of_lt (size.trans lower) upper)

theorem Proper.accept (proper : s.Proper (i + 1)) (free : s.stack.Open i) (stands : s.stack.state i = StateId.behindMarkup)
    (token' : token.Proper) (finish : token.symbol = Symbol.finish) : (s.accept i token).Proper (i + 1) :=
  proper.toRemembers.accept (Nat.lt_succ_self i) proper.stack.size
    (proper.stack.ends_push proper.stack.size free stands ⟨token, rfl, finish, token'.finish finish⟩)

theorem Proper.acceptError (proper : s.Proper (i + 1)) (free : s.stack.Open i) (token' : token.Proper)
    (finish : token.symbol = Symbol.finish) :
    (Session.accept { s with stack := s.stack.push i (some (Tree.ofChildren Symbol.error 0 [] false)) StateId.start } i
      token).Proper (i + 1) := by
  have remembers : Remembers { s with stack := s.stack.push i (some (Tree.ofChildren Symbol.error 0 [] false)) StateId.start } :=
    ⟨proper.last, proper.finished⟩
  refine remembers.accept (Nat.lt_succ_self i) (proper.stack.size.trans_eq Stack.size_push.symm) ?_
  exact proper.stack.ends_push_error proper.stack.size free ⟨rfl, rfl⟩ rfl rfl
    (Tree.written_ofChildren (by decide) (List.forall_mem_nil _)) ⟨token, rfl, finish, token'.finish finish⟩

/-! ### Errors -/

/-- Skipping a token keeps all versions: what was skipped before is taken off and put back with the token. -/
theorem Proper.skip (proper : s.Proper (i + 1)) (free : s.stack.Open i) (token' : token.Proper)
    (inner : token.symbol ≠ Symbol.finish) (skipped : Bool) : (s.skip i token skipped).Proper (i + 1) := by
  have wrap {trees : List Tree} (grown : ∀ t ∈ trees, t.Grown) :
      (Tree.ofChildren Symbol.errorRepeat 0 trees false).Grown := Tree.grown_of_isSkipped rfl (by decide) grown
  have same : (if isExtraToken token.symbol then { token with extra := true } else token).symbol = token.symbol ∧
      (if isExtraToken token.symbol then { token with extra := true } else token).size = token.size := by
    split_ifs <;> exact ⟨rfl, rfl⟩
  unfold Session.skip
  dsimp only
  generalize (if isExtraToken token.symbol then { token with extra := true } else token) = l at same
  obtain ⟨symbol, size⟩ := same
  have leaf : (Tree.leaf l).Grown := by
    refine .leaf (symbol ▸ token'.known) (symbol ▸ token'.written) (symbol ▸ inner) fun word _ => ?_
    rw [size]
    exact token'.word (Or.inl (symbol ▸ word))
  have alone := wrap (List.forall_mem_singleton.mpr leaf)
  -- In both cases a tree is put on the version in the recovery state, which asks nothing of it but that it is grown.
  have put {stack : Stack} (proper' : stack.Proper (i + 1)) (free' : stack.Open i) {t : Tree} (grown : t.Grown) :
      Session.Proper (i + 1) { s with stack := noteContext (stack.push i (some t) StateId.recovery) i l } :=
    proper.withStack ((proper'.push (Link.fits_recovery (by simpa using grown) free')).noteContext i l)
  cases skipped with
  | false => exact put proper.stack free alone
  | true =>
    obtain ⟨popped, grown⟩ := proper.stack.pop free 1
    have bounds : ∀ slice ∈ (s.stack.pop i 1).2, s.stack.size ≤ slice.version ∧ slice.version < (s.stack.pop i 1).1.size :=
      Stack.bounds_addSlices s.stack i _
    have opened := popped.open free
    rw [if_pos rfl]
    generalize s.stack.pop i 1 = result at popped grown bounds opened
    obtain ⟨stack, slices⟩ := result
    cases slices with
    | nil => exact put (popped.proper.mono proper.stack.size) opened alone
    | cons slice others =>
      -- The version of the slice replaces this one, so it has to be there besides those that stay.
      obtain ⟨lower, upper⟩ := bounds slice (List.mem_cons_self ..)
      have behind : i < slice.version := Nat.lt_of_lt_of_le proper.stack.size lower
      have left : stack.Proper (slice.version + 1) := popped.proper.atLeast upper
      have joined := wrap (List.forall_mem_append.mpr
        ⟨grown slice (List.mem_cons_self ..), List.forall_mem_singleton.mpr alone⟩)
      have top := popped.free slice.version lower
      cases others with
      | nil =>
        exact put ((left.replace slice.version i).mono behind) (Stack.open_replace opened top behind) joined
      | cons _ _ =>
        have kept := Stack.keeps_take stack (slice.version + 1)
        exact put (((left.take (Nat.le_refl _)).replace slice.version i).mono behind)
          (Stack.open_replace (kept.open (Nat.lt_succ_of_lt behind) opened) (kept.open (Nat.lt_succ_self _) top) behind) joined

theorem Proper.tryAncestors (proper : s.Proper (i + 1)) (free : s.stack.Open i) (before cost skipped : Nat) (token : Leaf)
    (ancestors : List Ancestor) : (tryAncestors i token before cost skipped ancestors s).1.Proper (i + 1) ∧
      (tryAncestors i token before cost skipped ancestors s).1.stack.Open i := by
  induction ancestors generalizing s with
  | nil => exact ⟨proper, free⟩
  | cons a others ih =>
    rw [Session.tryAncestors]
    dsimp only
    split
    · exact ih proper free
    · next fit =>
      rw [not_or] at fit
      split
      · next s' better =>
        obtain ⟨kept, keeps⟩ := proper.hasBetter better
        exact ⟨kept, keeps.open (Nat.lt_succ_self i) free⟩
      · next s' better =>
        obtain ⟨kept, keeps⟩ := proper.hasBetter better
        have opened := keeps.open (Nat.lt_succ_self i) free
        -- Going back makes versions behind the present ones, and the one that recovers stays where it is.
        split_ifs
        · have back := kept.stack.goBackTo opened (a.depth + skipped) fit.1
          have proper' := back.proper.mono kept.stack.size
          have opened' := back.open opened
          generalize s'.stack.goBackTo i (a.depth + skipped) a.state = result at proper' opened'
          obtain ⟨stack, gone⟩ := result
          cases gone with
          | true => exact ⟨kept.withStack proper', opened'⟩
          | false => exact ih (kept.withStack proper') opened'
        · exact ih kept opened

theorem Proper.recover (proper : s.Proper (i + 1)) (free : s.stack.Open i) (token' : token.Proper) :
    (s.recover i token).Proper (i + 1) := by
  have settled := proper.withStack (proper.stack.settle i)
  have opened := (Stack.keeps_settle (i + 1) i).open (Nat.lt_succ_self i) free
  unfold Session.recover
  dsimp -iota only
  split
  -- Whether or not there are states to go back to, the version itself stays where it is.
  next s' recovered tried =>
  have kept : s'.Proper (i + 1) ∧ s'.stack.Open i := by
    split at tried
    · split at tried
      · cases tried
        exact ⟨settled, opened⟩
      · obtain rfl : _ = s' := congrArg Prod.fst tried
        exact settled.tryAncestors opened ..
    · cases tried
      exact ⟨settled, opened⟩
  obtain ⟨dropped, keeps⟩ := kept.1.stack.dropInactive proper.stack.size
  have left := kept.1.withStack dropped
  have stands := keeps.open (Nat.lt_succ_self i) kept.2
  -- What is left is to give up, to accept all of the text as an error, or to skip the token.
  split_ifs with gone finish
  · exact left.halt i
  · exact left.acceptError stands token' finish
  · split
    · next better => exact (left.hasBetter better).1.halt i
    · next better =>
      obtain ⟨better, same⟩ := left.hasBetter better
      exact better.skip (same.open (Nat.lt_succ_self i) stands) token' finish _

theorem Proper.handleError (proper : s.Proper (i + 1)) (free : s.stack.Open i) (token' : token.Proper) :
    (s.handleError i token).Proper (i + 1) := by
  obtain ⟨entered, opened⟩ := proper.stack.enterRecovery token.symbol proper.stack.size free
  exact (proper.withStack entered).recover opened token'

/-! ### Advancing a version -/

/-- What is known of the outcome of the actions for a token on a version. -/
def Outcome.Proper (i : Nat) : Outcome → Prop
  | .done s => s.Proper (i + 1)
  | .stuck s => s.Proper (i + 1) ∧ s.stack.Open i
  | .reduced s version => s.Proper (i + 2) ∧ s.stack.Open i ∧ i < version ∧ s.stack.Open version

/-- The version to which a reduction has led. -/
def Follows (s : Session) (i version : Nat) : Prop :=
  i < version ∧ version < s.stack.size ∧ s.stack.Open version

theorem Proper.performOrdinary (proper : s.Proper (i + 1)) (free : s.stack.Open i) (token' : token.Proper)
    {actions : List Grammar.Action} (table : ∀ action ∈ actions, action ∈ Grammar.actions (s.stack.state i) token.symbol)
    (ordinary : ∀ action ∈ actions, action.isOrdinary = true) {last : Option Nat} (more : ∀ version ∈ last, s.Follows i version) :
    (perform i token actions last s).Proper i := by
  induction actions generalizing s last with
  | nil =>
    cases last with
    | none => exact ⟨proper, free⟩
    | some version =>
      obtain ⟨behind, valid, opened⟩ := more version rfl
      exact ⟨proper.withStack (proper.stack.atLeast (Nat.lt_of_le_of_lt behind valid)), free, behind, opened⟩
  | cons action actions ih =>
    obtain ⟨first, others⟩ := List.forall_mem_cons.mp ordinary
    obtain ⟨member, rest⟩ := List.forall_mem_cons.mp table
    cases action with
    | shift state =>
      exact proper.shift free token' (Grammar.ne_finish_of_mem member (Or.inr ⟨state, rfl⟩)) (Or.inr ⟨rfl, .shift member⟩)
    | shiftExtra =>
      exact proper.shift free token' (Grammar.ne_finish_of_mem member (Or.inl rfl)) (Or.inl ⟨rfl, rfl⟩)
    | shiftRepeat state => exact ih proper free rest others more
    | reduce symbol count production =>
      have applies : Rule.Applies ⟨symbol, count, production⟩ (s.stack.state i) := Grammar.reduces_of_mem member
      obtain ⟨reduced, told⟩ := proper.stack.reduce free applies
      have same := reduced.keeps.state proper.stack.size applies.source
      refine ih (proper.withStack (reduced.proper.mono proper.stack.size)) (reduced.open free) (same ▸ rest) others ?_
      -- The version that is told is a new one; an earlier one is still there if this reduction has led to none.
      intro version here
      rcases Option.or_eq_some_iff.mp ((Option.orElse_eq_or ..).symm.trans here) with now | ⟨_, before⟩
      · obtain ⟨lower, upper⟩ := told version now
        exact ⟨Nat.lt_of_lt_of_le proper.stack.size lower, upper, reduced.free version lower⟩
      · obtain ⟨behind, valid, opened⟩ := more version before
        exact ⟨behind, Nat.lt_of_lt_of_le valid reduced.proper.size, reduced.open opened⟩
    | accept => cases first
    | recover => cases first

theorem Proper.perform (proper : s.Proper (i + 1)) (free : s.stack.Open i) (token' : token.Proper) :
    (perform i token (Grammar.actions (s.stack.state i) token.symbol) none s).Proper i := by
  rcases Grammar.actions_cases (s.stack.state i) token.symbol with ⟨stands, finish, only⟩ | ⟨_, only⟩ | ordinary
  · rw [only]
    exact proper.accept free stands token' finish
  · rw [only]
    exact proper.recover free token'
  · exact proper.performOrdinary free token' (fun _ => id) ordinary fun _ none => (nomatch none)

theorem asWord?_proper (token' : token.Proper) (state : StateId) : ∀ word ∈ asWord? state token, word.Proper := by
  intro word found
  unfold asWord? at found
  split at found
  · next reserved =>
    have proper : Symbol.word < Symbol.tokenCount ∧ Symbol.word ≠ Symbol.unwritten ∧ Symbol.word ≠ Symbol.finish := by decide
    split at found
    · cases found
      exact {
        known := Or.inl proper.1
        written := proper.2.1
        word := fun _ => token'.word (Or.inr reserved)
        finish := fun finish => absurd finish proper.2.2 }
    · cases found
  · cases found

theorem Proper.takeToken (proper : s.Proper (i + 1)) (free : s.stack.Open i) (token' : token.Proper) (fuel : Nat) :
    (takeToken i fuel token s).Proper (i + 1) := by
  induction fuel generalizing s token with
  | zero => exact proper.halt i
  | succ fuel ih =>
    unfold Session.takeToken
    dsimp only
    have outcome := proper.perform free token'
    generalize Session.perform i token (Grammar.actions (s.stack.state i) token.symbol) none s = result at outcome
    cases result with
    | done s' => exact outcome
    | reduced s' version =>
      obtain ⟨proper', free', behind, opened⟩ := outcome
      exact ih (proper'.withStack (proper'.stack.replace version i)) (Stack.open_replace free' opened behind) token'
    | stuck s' =>
      obtain ⟨proper', free'⟩ := outcome
      dsimp only
      split
      · next word found => exact ih proper' free' (asWord?_proper token' _ word found)
      · split_ifs
        · exact proper'.recover free' token'
        · exact proper'.withStack (proper'.stack.pause free' token')

theorem Proper.advance (proper : s.Proper (i + 1)) (free : s.stack.Open i) (text : List CodePoint) :
    (s.advance text i).Proper (i + 1) := by
  obtain ⟨ready, same, token'⟩ := proper.nextToken text i
  exact ready.takeToken (same ▸ free) token' _

theorem Proper.advancePast (proper : s.Proper n) (text : List CodePoint) (i fuel reached : Nat) :
    (advancePast text i fuel reached s).1.Proper 0 := by
  induction fuel generalizing s n reached with
  | zero => exact proper.mono (Nat.zero_le n)
  | succ fuel ih =>
    unfold Session.advancePast
    split
    · next active =>
      have here := proper.withStack (proper.stack.atLeast (Stack.lt_size_of_isActive active))
      have advanced := here.advance (proper.stack.open_of_isActive active) text
      dsimp only
      split_ifs
      · exact advanced.mono (Nat.zero_le _)
      · exact ih advanced reached
    · exact proper.mono (Nat.zero_le n)

theorem Proper.advanceAll (proper : s.Proper 0) (text : List CodePoint) (steps fuel i reached : Nat) :
    (advanceAll text steps fuel i reached s).1.Proper 0 := by
  induction fuel generalizing s i reached with
  | zero => exact proper
  | succ fuel ih =>
    unfold Session.advanceAll
    split_ifs
    · exact ih (proper.advancePast text i steps reached) _ _
    · exact proper

/-! ### Whole texts -/

theorem Proper.resumeFrom (proper : s.Proper 0) (fuel i count : Nat) (going : Bool) (least : Option Nat) :
    (resumeFrom fuel i count going least s).1.Proper 0 := by
  induction fuel generalizing s i count going least with
  | zero => exact proper
  | succ fuel ih =>
    unfold Session.resumeFrom
    dsimp only
    split
    · exact proper
    · split
      · next token paused =>
        have fits := proper.stack.fits_version i
        have token' := fits.waiting token paused
        have free : s.stack.Open i := fits.going (by rw [paused]; exact Status.noConfusion)
        -- A version that is not there counts as halted, so one that waits is there.
        have valid : i < s.stack.size := by
          refine Nat.lt_of_not_le fun beyond => ?_
          rw [Stack.version_beyond beyond] at paused
          cases paused
        split_ifs
        · have resumed := proper.withStack ((proper.stack.atLeast valid).resume free)
          have opened := (Stack.keeps_resume (i + 1) i).open (Nat.lt_succ_self i) free
          exact ih ((resumed.handleError opened token').mono (Nat.zero_le _)) _ _ _ _
        · exact ih (proper.withStack (proper.stack.remove (Or.inl (Nat.zero_le i)))) _ _ _ _
      · exact ih proper _ _ _ _

theorem Proper.condense (proper : s.Proper 0) : s.condense.1.Proper 0 := by
  have sorted := proper.stack.sortFrom (2 * s.stack.size + 1) 0 none
  exact (proper.withStack (sorted.take (Nat.zero_le maxVersions))).resumeFrom _ _ _ _ _

theorem Proper.run (proper : s.Proper 0) (text : List CodePoint) (steps fuel reached : Nat) :
    (run text steps fuel reached s).Proper 0 := by
  induction fuel generalizing s reached with
  | zero => exact proper
  | succ fuel ih =>
    unfold Session.run
    dsimp only
    have condensed := (proper.advanceAll text steps steps 0 reached).condense
    split_ifs
    · exact condensed
    · exact ih condensed _

end Session

theorem tree_isWhole (text : List CodePoint) : (tree text).IsWhole := by
  have parsed := (Session.initial_proper.mono (Nat.zero_le 1)).run text (Session.stepsFor text) (Session.stepsFor text) 0
  unfold tree
  dsimp only
  cases found : (Session.initial.run text (Session.stepsFor text) (Session.stepsFor text) 0).finished with
  | none => exact Tree.isWhole_error 0 (List.forall_mem_nil _)
  | some t => exact parsed.finished t found

end Parse

/-- The tree of each text is a markup or an error, and all symbols in it stand in some text. -/
theorem parse_isRoot (text : List CodePoint) : (parse text).IsRoot := (Parse.tree_isWhole text).toIsRoot.balance

/-- A text that is parsed without error has a tidy tree. -/
theorem parse_tidy {text : List CodePoint} (sound : (parse text).errorCost = 0) : (parse text).Tidy := by
  have whole := Parse.tree_isWhole text
  rw [parse, Tree.errorCost_balance whole.shallow] at sound
  exact (whole.tidy sound).balance

end Ucode

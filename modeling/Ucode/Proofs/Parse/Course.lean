import Ucode.Parse.Run
import Ucode.Proofs.Parse.Chain
import Ucode.Proofs.Tree.View

/-!
# Parses that go one way

`Course` says how a text is parsed when the table never leaves a choice and nothing has to be mended: token by token,
with reductions before each of them. It speaks of lists of frames only; versions, their comparison and the numbers
that bound the loops of the parser are gone. A course gives the tree of its text (`Course.tree`).
-/
namespace Ucode.Parse

open Grammar (StateId)
open Parse.Frame (top reach)

namespace Frame

theorem reach_append (front back : List Frame) : reach (front ++ back) = reach back + Tree.totals (trees front) := by
  induction front with
  | nil => exact (Extent.add_zero _).symm
  | cons f front ih =>
    have last : trees (f :: front) = trees front ++ [f.tree] := by simp [trees]
    rw [List.cons_append, reach, ih, last, Tree.totals_append, Extent.add_assoc, Tree.totals_singleton]

end Frame

/-! ### The steps of a course -/

/-- The context behind a token. -/
def contextBehind (token : Leaf) (before : Option Template.Snapshot) : Option Template.Snapshot :=
  match token.origin with
  | .template context _ => context
  | _ => before

/-- The reductions that are made before a token, and how many they are. A repetition is reduced before it goes on. -/
inductive Reduces (token : Symbol) : Nat → List Frame → List Frame → Prop where
  | none (frames : List Frame) : Reduces token 0 frames frames
  | reduce {n production : Nat} {symbol : Symbol} {front back last : List Frame} {others : List Grammar.Action}
      (plain : ∀ f ∈ front, f.tree.extra = false)
      (acts : Grammar.actions (top (front ++ back)) token = .reduce symbol front.length production :: others)
      (repeats : ∀ a ∈ others, ∃ state, a = .shiftRepeat state)
      (more : Reduces token n
        (⟨Grammar.next (top back) symbol, Tree.ofChildren symbol production (Frame.trees front) false⟩ :: back) last) :
      Reduces token (n + 1) (front ++ back) last

theorem Reduces.reach {token : Symbol} {n : Nat} {frames last : List Frame} (reduces : Reduces token n frames last) :
    Frame.reach last = Frame.reach frames := by
  induction reduces with
  | none => rfl
  | reduce _ _ _ _ ih => rw [ih, Frame.reach, Tree.total_ofChildren, Frame.reach_append]

/-- Where a parse stands: its stack, the context behind the last template token, and how the template reader was left. -/
structure Config where
  frames : List Frame
  context : Option Template.Snapshot
  reader : Template.Context

namespace Config

def initial : Config := ⟨[], none, Template.Context.fresh⟩

def place (c : Config) : Extent := reach c.frames

/-- The token that is read next, and how it leaves the template reader. -/
def Reads (c : Config) (text : List CodePoint) (token : Leaf) (reader : Template.Context) : Prop :=
  ∀ advanced, (Situation.mk (top c.frames) c.context advanced (c.place.bytes == 0)).read c.reader
    (text.drop c.place.points) = (reader, token)

/-- Fewer reductions than the parser makes before a token at most. -/
def limit (c : Config) : Nat := 8 * (c.frames.length + 64)

/-- A token is read and taken. It is not empty, or it changes the context. -/
inductive Step (text : List CodePoint) (c : Config) : Config → Prop where
  | take {token : Leaf} {reader : Template.Context} {n : Nat} {frames : List Frame} {state : StateId}
      (reads : c.Reads text token reader) (reduces : Reduces token.symbol n c.frames frames) (few : n < c.limit)
      (acts : Grammar.actions (top frames) token.symbol = [.shift state])
      (moves : 0 < (token.padding + token.size).bytes ∨ contextBehind token c.context ≠ c.context) :
      Step text c ⟨⟨state, .leaf { token with extra := false }⟩ :: frames, contextBehind token c.context, reader⟩

end Config

/-- From a place in a text so many tokens lead to the tree of the text, the token at the end of the text included. -/
inductive Course (text : List CodePoint) : Nat → Config → Tree → Prop where
  | finish {c : Config} {token : Leaf} {reader : Template.Context} {n : Nat} {frames : List Frame} {root : Tree}
      (reads : c.Reads text token reader) (reduces : Reduces token.symbol n c.frames frames) (few : n < c.limit)
      (acts : Grammar.actions (top frames) token.symbol = [.accept])
      (whole : Session.rootOf (Frame.trees frames ++ [.leaf token]) = some root) : Course text 1 c root
  | step {c c' : Config} {n : Nat} {root : Tree} (step : c.Step text c') (more : Course text n c' root) :
      Course text (n + 1) c root

namespace Session

/-- A session that stands where a course does. -/
structure At (s : Session) (c : Config) : Prop where
  holds : s.stack.Holds c.frames c.context
  reader : s.reader = c.reader
  /-- The token read last is not the one to be read next. -/
  passed : ∀ l ∈ s.last, l.bytes ≠ c.place.bytes ∨ l.context ≠ c.context
  going : s.finished = none

/-- A session that has found the tree. -/
structure Done (s : Session) (root : Tree) : Prop where
  finished : s.finished = some root
  halted : ∃ version, s.stack.versions = [version] ∧ version.status = .halted

theorem initial_at : initial.At Config.initial := ⟨Stack.initial_holds, rfl, by simp [initial], rfl⟩

/-! ### Taking a token -/

section Take

variable {s : Session} {token : Leaf} {frames last : List Frame} {context : Option Template.Snapshot} {n : Nat}

theorem state_of_holds (holds : s.stack.Holds frames context) : s.stack.state 0 = top frames := by
  obtain ⟨version, single, _, _, chain⟩ := holds.single
  have here : s.stack.version 0 = version := by rw [Stack.version, single]; rfl
  rw [Stack.state, Stack.topOf, here, chain.vertex.1]

theorem perform_repeats (others : List Grammar.Action) (version : Nat)
    (repeats : ∀ a ∈ others, ∃ state, a = .shiftRepeat state) :
    perform 0 token others (some version) s = .reduced s version := by
  induction others with
  | nil => rfl
  | cons a others ih =>
    obtain ⟨state, rfl⟩ := repeats a (.head _)
    rw [perform]
    exact ih fun b member => repeats b (.tail _ member)

theorem takeToken_reduces (reduces : Reduces token.symbol n frames last) (holds : s.stack.Holds frames context)
    (fuel : Nat) : ∃ stack : Stack, stack.Holds last context ∧
      takeToken 0 (n + fuel) token s = takeToken 0 fuel token { s with stack := stack } := by
  -- Each reduction leaves a stack that is a chain again, and takes one of the steps that a token has.
  induction reduces generalizing s with
  | none => exact ⟨s.stack, holds, by rw [Nat.zero_add]⟩
  | @reduce n production symbol front back last others plain acts repeats more ih =>
    obtain ⟨stack, reduced, after⟩ := holds.reduce plain symbol production
    obtain ⟨stack', holds', taken⟩ := ih (s := { s with stack := stack.replace 1 0 }) after
    have performed : perform 0 token (.reduce symbol front.length production :: others) none s =
        .reduced { s with stack := stack } 1 := by
      rw [perform, reduced]
      exact perform_repeats others 1 repeats
    refine ⟨stack', holds', ?_⟩
    rw [Nat.add_right_comm, takeToken]
    simp only [state_of_holds holds, acts, performed]
    exact taken

theorem noteContext_holds {stack : Stack} (holds : stack.Holds frames context) (token : Leaf) :
    (noteContext stack 0 token).Holds frames (contextBehind token context) := by
  unfold noteContext contextBehind
  cases token.origin with
  | template context' changed => exact holds.setContext context'
  | _ => exact holds

theorem takeToken_shift {state : StateId} (holds : s.stack.Holds frames context)
    (acts : Grammar.actions (top frames) token.symbol = [.shift state]) (fuel : Nat) :
    ∃ stack : Stack, stack.Holds (⟨state, .leaf { token with extra := false }⟩ :: frames) (contextBehind token context) ∧
      takeToken 0 (fuel + 1) token s = { s with stack := stack } := by
  refine ⟨_, noteContext_holds (holds.push (.leaf { token with extra := false }) state) token, ?_⟩
  rw [takeToken]
  simp only [state_of_holds holds, acts]
  rfl

/-- The version ends, and the trees on its stack make up the whole tree. -/
theorem takeToken_accept {root : Tree} (holds : s.stack.Holds frames context)
    (acts : Grammar.actions (top frames) token.symbol = [.accept]) (going : s.finished = none)
    (whole : rootOf (Frame.trees frames ++ [.leaf token]) = some root) (fuel : Nat) :
    (takeToken 0 (fuel + 1) token s).Done root := by
  obtain ⟨version, single, active, same, chain⟩ := (holds.push (.leaf token) StateId.start).single
  have here : (s.stack.push 0 (some (.leaf token)) StateId.start).version 0 = version := by
    rw [Stack.version, single]; rfl
  rw [← here] at chain
  -- The token lies on the chain like any other tree, so all of the trees are taken off at once.
  obtain ⟨u, popped⟩ := Stack.popAll_chain _ 0 chain
  have taken : takeToken 0 (fuel + 1) token s = s.accept 0 token := by
    rw [takeToken]
    simp only [state_of_holds holds, acts]
    rfl
  have last : Frame.trees (⟨StateId.start, .leaf token⟩ :: frames) = Frame.trees frames ++ [.leaf token] := by
    simp [Frame.trees]
  rw [taken, accept]
  simp only [popped, List.foldl_cons, List.foldl_nil, last, whole, Option.elim, finish, going, single, Stack.size]
  refine ⟨rfl, { version with status := .halted }, rfl, rfl⟩

end Take

/-! ### Reading a token -/

section Advance

variable {s : Session} {c c' : Config} {text : List CodePoint} {token : Leaf} {reader : Template.Context} {root : Tree}

theorem At.nextToken (stands : s.At c) (reads : c.Reads text token reader) :
    s.nextToken text 0 = ({ s with reader := reader, last := some ⟨token, c.context, c.place.bytes⟩ }, token) := by
  obtain ⟨version, single, active, same, chain⟩ := stands.holds.single
  have here : s.stack.version 0 = version := by rw [Stack.version, single]; rfl
  have place : s.stack.place 0 = c.place := by rw [Stack.place, Stack.topOf, here, chain.vertex.2]; rfl
  have unread : s.last.filter (fun l => l.bytes == c.place.bytes && l.context == c.context &&
      isReusable (top c.frames) l.token) = none := by
    cases last : s.last with
    | none => rfl
    | some l =>
      rcases stands.passed l last with other | other <;> simp [Option.filter, other]
  unfold Session.nextToken
  simp only [state_of_holds stands.holds, place, here, same, unread]
  rw [stands.reader, reads]

theorem At.length_le (stands : s.At c) : c.frames.length ≤ s.stack.vertices.size := by
  obtain ⟨version, _, _, _, chain⟩ := stands.holds.single
  have := chain.length_lt
  omega

/-- The parser can make more reductions for a token than a course makes. -/
theorem At.tokenSteps_eq {n : Nat} (stands : s.At c) (few : n < c.limit) : ∃ fuel, s.tokenSteps = n + (fuel + 1) := by
  have length := stands.length_le
  refine ⟨s.tokenSteps - n - 1, ?_⟩
  unfold Config.limit at few
  unfold tokenSteps
  omega

theorem At.advance (stands : s.At c) (step : c.Step text c') : (s.advance text 0).At c' := by
  cases step with
  | @take token reader n frames state reads reduces few acts moves =>
    let read : Session := { s with reader := reader, last := some ⟨token, c.context, c.place.bytes⟩ }
    obtain ⟨fuel, enough⟩ := stands.tokenSteps_eq few
    obtain ⟨stack, reduced, taken⟩ := takeToken_reduces (s := read) reduces stands.holds (fuel + 1)
    obtain ⟨stack', shifted, done⟩ := takeToken_shift (s := { read with stack := stack }) reduced acts fuel
    have advanced : s.advance text 0 = { read with stack := stack' } := by
      rw [Session.advance, stands.nextToken reads]
      change takeToken 0 s.tokenSteps token read = _
      rw [enough, taken, done]
    rw [advanced]
    -- The token that is kept for reuse must not be taken for the next one.
    refine ⟨shifted, rfl, ?_, stands.going⟩
    intro l last
    obtain rfl : (⟨token, c.context, c.place.bytes⟩ : LastToken) = l := by simpa [read] using last
    rcases moves with longer | changed
    · -- What was read lies behind the place where the token was looked for.
      left
      have place : (Frame.reach (⟨state, .leaf { token with extra := false }⟩ :: frames)).bytes =
          c.place.bytes + (token.padding + token.size).bytes := by
        rw [Frame.reach, reduces.reach]
        rfl
      change c.place.bytes ≠ (Frame.reach _).bytes
      rw [place]
      omega
    · right
      exact changed.symm

theorem At.accept {n : Nat} {frames : List Frame} (stands : s.At c) (reads : c.Reads text token reader)
    (reduces : Reduces token.symbol n c.frames frames) (few : n < c.limit)
    (acts : Grammar.actions (top frames) token.symbol = [.accept])
    (whole : rootOf (Frame.trees frames ++ [.leaf token]) = some root) : (s.advance text 0).Done root := by
  let read : Session := { s with reader := reader, last := some ⟨token, c.context, c.place.bytes⟩ }
  obtain ⟨fuel, enough⟩ := stands.tokenSteps_eq few
  obtain ⟨stack, reduced, taken⟩ := takeToken_reduces (s := read) reduces stands.holds (fuel + 1)
  have advanced : s.advance text 0 = takeToken 0 (fuel + 1) token { read with stack := stack } := by
    rw [Session.advance, stands.nextToken reads]
    change takeToken 0 s.tokenSteps token read = _
    rw [enough, taken]
  rw [advanced]
  exact takeToken_accept (s := { read with stack := stack }) reduced acts stands.going whole fuel

end Advance

/-! ### The loops of the parser -/

section Loops

variable {s : Session} {c : Config} {text : List CodePoint} {root : Tree} {n : Nat}

theorem At.isActive (stands : s.At c) : s.stack.isActive 0 = true := by
  obtain ⟨version, single, active, _, _⟩ := stands.holds.single
  simp [Stack.isActive, Stack.version, single, active]

theorem At.size (stands : s.At c) : s.stack.size = 1 := by
  obtain ⟨version, single, _⟩ := stands.holds.single
  rw [Stack.size, single]
  rfl

theorem Done.size (done : s.Done root) : s.stack.size = 1 := by
  obtain ⟨version, single, _⟩ := done.halted
  rw [Stack.size, single]
  rfl

/-- Where a loop of the parser leaves a course: at its end, or with fewer tokens left. -/
def Nearer (s : Session) (text : List CodePoint) (n : Nat) (root : Tree) : Prop :=
  s.Done root ∨ ∃ m c, m < n ∧ s.At c ∧ Course text m c root

theorem advancePast_nearer (course : Course text n c root) (stands : s.At c) (fuel reached : Nat) (enough : n ≤ fuel) :
    (advancePast text 0 fuel reached s).1.Nearer text n root := by
  -- The loop stops when the text is read or as soon as it is ahead of all versions, in the middle of the course.
  induction course generalizing s fuel reached with
  | finish reads reduces few acts whole =>
    obtain ⟨fuel, rfl⟩ : ∃ m, fuel = m + 1 := ⟨fuel - 1, by omega⟩
    have done := stands.accept reads reduces few acts whole
    have idle : (s.advance text 0).stack.isActive 0 = false := by
      obtain ⟨version, single, halted⟩ := done.halted
      simp [Stack.isActive, Stack.version, single, halted]
    left
    rw [advancePast, if_pos stands.isActive]
    dsimp only
    split
    · exact done
    · cases fuel with
      | zero => exact done
      | succ fuel =>
        rw [advancePast, if_neg (by simp [idle])]
        exact done
  | @step c c' n root step more ih =>
    obtain ⟨fuel, rfl⟩ : ∃ m, fuel = m + 1 := ⟨fuel - 1, by omega⟩
    have next := stands.advance step
    rw [advancePast, if_pos stands.isActive]
    dsimp only
    split
    · exact Or.inr ⟨n, c', Nat.lt_succ_self n, next, more⟩
    · rcases ih next fuel reached (by omega) with done | ⟨m, c'', fewer, after, rest⟩
      · exact Or.inl done
      · exact Or.inr ⟨m, c'', by omega, after, rest⟩

theorem advanceAll_nearer (course : Course text n c root) (stands : s.At c) (steps fuel reached : Nat)
    (enough : n ≤ steps) (some_ : 0 < fuel) : (advanceAll text steps fuel 0 reached s).1.Nearer text n root := by
  obtain ⟨fuel, rfl⟩ : ∃ m, fuel = m + 1 := ⟨fuel - 1, by omega⟩
  have nearer := advancePast_nearer course stands steps reached enough
  have size : (advancePast text 0 steps reached s).1.stack.size = 1 := by
    -- One version is left whatever it has come to, so the loop over the versions ends here.
    rcases nearer with done | ⟨_, _, _, after, _⟩
    · exact done.size
    · exact after.size
  rw [advanceAll, if_pos (by rw [stands.size]; exact Nat.one_pos)]
  dsimp only
  cases fuel with
  | zero => exact nearer
  | succ fuel =>
    rw [advanceAll, if_neg (by rw [size]; omega)]
    exact nearer

theorem settle_holds {stack : Stack} {frames : List Frame} {context : Option Template.Snapshot}
    (holds : stack.Holds frames context) : (stack.settle 0).Holds frames context := by
  obtain ⟨version, single, active, same, chain⟩ := holds.single
  refine ⟨{ version with nodesAtError := min version.nodesAtError (stack.topOf 0).nodes }, ?_, active, same,
    chain.mono (fun _ _ kept => kept)⟩
  rw [Stack.settle, Stack.modifyVersion, single]
  rfl

theorem At.condense (stands : s.At c) : s.condense.1.At c := by
  have settled := settle_holds stands.holds
  obtain ⟨version, single, active, _⟩ := settled.single
  -- With a single version there is nothing to compare.
  have sorted : (sortFrom (2 * s.stack.size + 1) 0 none s.stack).1 = s.stack.settle 0 := by
    have going : s.stack.isHalted 0 = false := by
      have := stands.isActive
      simp only [Stack.isActive, beq_iff_eq] at this
      simp [Stack.isHalted, this]
    have size : (s.stack.settle 0).size = 1 := by rw [Stack.size, single]; rfl
    rw [stands.size, sortFrom, if_neg (by rw [stands.size]; omega), if_neg (by simp [going])]
    simp only [Stack.standing, size, compareWith, Nat.le_refl, if_true, Nat.zero_add, sortFrom]
  have kept : (s.stack.settle 0).versions.take maxVersions = [version] := by
    rw [single]
    rfl
  have all : ({ s.stack.settle 0 with versions := [version] } : Stack) = s.stack.settle 0 := by rw [← single]
  have result : s.condense.1 = { s with stack := s.stack.settle 0 } := by
    rw [Session.condense]
    simp only [sorted, kept, all]
    have here : (s.stack.settle 0).version 0 = version := by rw [Stack.version, single]; rfl
    rw [Stack.size, single, List.length_singleton, resumeFrom, if_neg (by omega)]
    simp only [here, active]
    rfl
  rw [result]
  exact ⟨settled, stands.reader, stands.passed, stands.going⟩

theorem Done.condense (done : s.Done root) : s.condense.1.finished = some root ∧ s.condense.2 = none := by
  obtain ⟨version, single, halted⟩ := done.halted
  have ended : s.stack.isHalted 0 = true := by
    simp [Stack.isHalted, Stack.version, single, halted]
  have sorted : sortFrom (2 * s.stack.size + 1) 0 none s.stack = (s.stack.remove 0, none) := by
    have none : (s.stack.remove 0).size = 0 := by rw [Stack.size, Stack.remove, single]; rfl
    rw [done.size, sortFrom, if_neg (by rw [done.size]; omega), if_pos ended, sortFrom, if_pos (Nat.le_of_eq none)]
  have result : s.condense = ({ s with stack := { s.stack with versions := [] } }, none) := by
    rw [Session.condense]
    simp only [sorted, Stack.remove, single]
    rfl
  rw [result]
  exact ⟨done.finished, rfl⟩

/-- A course with no more tokens than the loops have rounds is followed to its end. -/
theorem run_course (course : Course text n c root) (stands : s.At c) (steps fuel reached : Nat) (enough : n ≤ steps)
    (rounds : n ≤ fuel) : (run text steps fuel reached s).finished = some root := by
  induction fuel generalizing s c n reached with
  | zero => cases course <;> omega
  | succ fuel ih =>
    have positive : 0 < steps := by cases course <;> omega
    rw [run]
    -- In each round the course ends, or fewer tokens are left of it.
    rcases advanceAll_nearer course stands steps steps reached enough positive with done | ⟨m, c', fewer, after, rest⟩
    · obtain ⟨finished, least⟩ := done.condense
      have ended : isOver (advanceAll text steps steps 0 reached s).1.condense.1
          (advanceAll text steps steps 0 reached s).1.condense.2 = true := by
        simp [isOver, finished, least]
      simp only [ended, true_or, if_true]
      exact finished
    · have kept := after.condense
      have going : isOver (advanceAll text steps steps 0 reached s).1.condense.1
          (advanceAll text steps steps 0 reached s).1.condense.2 = false := by
        simp [isOver, kept.going]
      have one : (advanceAll text steps steps 0 reached s).1.stack.size ≠ 0 := by
        rw [after.size]
        omega
      simp only [going, one, or_self, Bool.false_eq_true, if_false]
      exact ih rest kept _ (by omega) (by omega)

end Loops
end Session

/-- A course from the start of a text gives its tree, before that is balanced. -/
theorem Course.tree_eq {text : List CodePoint} {n : Nat} {root : Tree} (course : Course text n Config.initial root)
    (few : n ≤ Session.stepsFor text) : tree text = root := by
  have found := Session.run_course course Session.initial_at (Session.stepsFor text) (Session.stepsFor text) 0 few few
  rw [tree]
  simp only [found, Option.getD_some]

end Ucode.Parse

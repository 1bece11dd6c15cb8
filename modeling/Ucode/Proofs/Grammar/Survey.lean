import Mathlib.Algebra.Group.Nat.Defs
import Mathlib.Tactic.SplitIfs
import Ucode.Proofs.Grammar.Expressions

/-!
# What holds of the whole table

Some facts about all entries and all rows of the parse table, found by one pass over each (`survey`). A row is a map that
is written as groups of digits, so what holds of the groups of all rows holds of whatever is looked up in one
(`testFrom_of_valueFrom`). Only one state accepts a text, it is only reached behind a markup, a reduction never makes a
token, and the token that stands in no text can only be skipped.
-/
namespace Ucode

/-- The symbol of the token that stands in no text. -/
def Symbol.unwritten : Symbol := Grammar.LexMode.symbolOf .error

namespace Grammar

open StateRow

/-! ### Passing over a table -/

section Pass

variable {α : Type}

/-- Whether all items of a list pass a test that is given their numbers, which are counted from `n` on. -/
def testAll (test : Nat → α → Bool) : Nat → List α → Bool
  | _, [] => true
  | n, x :: xs => test n x && testAll test (n + 1) xs

/-- Whether all items of a table in blocks pass a test that is given their numbers. -/
def testBlocks (size : Nat) (test : Nat → α → Bool) (blocks : Array (Array α)) : Bool :=
  testAll (fun b block => testAll (fun k => test (size * b + k)) 0 block.toList) 0 blocks.toList

variable {test : Nat → α → Bool} {x : α}

theorem test_of_testAll {n k : Nat} {xs : List α} (passed : testAll test n xs = true) (here : xs[k]? = some x) :
    test (n + k) x = true := by
  induction xs generalizing n k with
  | nil => cases here
  | cons first others ih =>
    obtain ⟨now, later⟩ := (Bool.and_eq_true _ _).mp passed
    cases k with
    | zero =>
      cases here
      exact now
    | succ k =>
      rw [show n + (k + 1) = n + 1 + k by omega]
      exact ih later here

/-- What is looked up in a table in blocks has passed the test, or it is what stands for all that is not there. -/
theorem test_of_testBlocks {size : Nat} {blocks : Array (Array α)} (passed : testBlocks size test blocks = true)
    (n : Nat) (otherwise : α) : (blocks.getD (n / size) #[]).getD (n % size) otherwise = otherwise ∨
      test n ((blocks.getD (n / size) #[]).getD (n % size) otherwise) = true := by
  simp only [Array.getD_eq_getD_getElem?]
  cases block : blocks[n / size]? with
  | none => exact Or.inl (by simp)
  | some items =>
    cases item : items[n % size]? with
    | none => exact Or.inl (by simp [item])
    | some y =>
      have inside := test_of_testAll passed (k := n / size) (by simpa using block)
      have here := test_of_testAll inside (k := n % size) (by simpa using item)
      simp only [Nat.zero_add, Nat.div_add_mod] at here
      exact Or.inr (by simpa [item] using here)

/-- Whether all groups of a map, each with its set and its value, pass a test. -/
def testFrom (test : Nat → Nat → Bool) : Nat → Nat → Bool
  | 0, _ => true
  | _ + 1, 0 => true
  | fuel + 1, digits + 1 =>
    test ((digits + 1) % 1000) ((digits + 1) / 1000 % 10000) && testFrom test fuel ((digits + 1) / 10000000)

theorem testFrom_of_valueFrom {test : Nat → Nat → Bool} {sets fuel digits value : Nat}
    (passed : testFrom test fuel digits = true) (found : valueFrom sets fuel digits = some value) :
    ∃ set, sets.testBit set = true ∧ test set value = true := by
  induction fuel generalizing digits with
  | zero => cases found
  | succ fuel ih =>
    cases digits with
    | zero => cases found
    | succ digits =>
      obtain ⟨now, later⟩ := (Bool.and_eq_true _ _).mp passed
      rw [valueFrom, if_neg (Nat.succ_ne_zero digits)] at found
      split_ifs at found with here
      · cases found
        exact ⟨_, here, now⟩
      · exact ih later found

end Pass

/-! ### The pass -/

/-- An action that neither ends a parse nor skips a token. It leads behind a markup only by a reduction. -/
def Action.isOrdinary : Action → Bool
  | .shift state | .shiftRepeat state => !Nat.beq state StateId.behindMarkup
  | .reduce symbol _ _ => Nat.ble Symbol.tokenCount symbol
  | .shiftExtra => true
  | .accept | .recover => false

/-- The number of the entry that accepts. -/
def acceptNumber : Nat := 1286

/-- The number of the entry that skips a token. -/
def recoverNumber : Nat := 1

/-- The set that holds all tokens; of the other symbols it holds the markup only. -/
def wholeSet : Nat := 1

/-- The set that holds the end of the text only. -/
def finishSet : Nat := 41

/-- What is asked of an entry. -/
def testEntry (index : Nat) (e : Entry) : Bool :=
  Nat.beq (index + 1) acceptNumber || Nat.beq (index + 1) recoverNumber || e.actions.all Action.isOrdinary

/-- What is asked of a group in the action map of a state. -/
def testAction (state set number : Nat) : Bool :=
  (!Nat.beq number acceptNumber || Nat.beq state StateId.behindMarkup && Nat.beq set finishSet) &&
    (!Nat.beq number recoverNumber || Nat.beq state StateId.recovery) &&
    (!Nat.beq set wholeSet || Nat.beq number recoverNumber)

/-- What is asked of a group in a goto map. -/
def testGoto (set goal : Nat) : Bool := !Nat.beq goal StateId.behindMarkup || Nat.beq set wholeSet

/-- What a pass over the table finds. -/
structure Survey : Prop where
  entries : testBlocks 128 testEntry entries = true
  accept : (entryNumber acceptNumber).actions = [.accept]
  recover : (entryNumber recoverNumber).actions = [.recover]
  actions : testBlocks 64 (fun state row => testFrom (testAction state) groupLimit row.actions) stateBlocks = true
  gotos : testBlocks 64 (fun _ row => testFrom testGoto groupLimit row.gotos) stateBlocks = true
  finish : ∀ token < Symbol.tokenCount, (tokenSets.getD token 0).testBit finishSet = true → token = Symbol.finish
  unwritten : tokenSets.getD Symbol.unwritten 0 = 2 ^ wholeSet
  markup : ∀ k < 84, (ruleSets.getD k 0).testBit wholeSet = true → k = 0

theorem survey : Survey := by constructor <;> decide +kernel

/-- The number of an entry that stands in a row has passed a test of all action maps, with a set that holds the token. -/
theorem exists_of_actionNumber? {test : StateId → Nat → Nat → Bool} {state : StateId} {token : Symbol} {number : Nat}
    (passed : testBlocks 64 (fun state row => testFrom (test state) groupLimit row.actions) stateBlocks = true)
    (found : (row state).actionNumber? token = some number) :
    ∃ set, (tokenSets.getD token 0).testBit set = true ∧ test state set number = true := by
  rcases test_of_testBlocks passed state ⟨0, 0, 0⟩ with none | tested
  · unfold actionNumber? row at found
    rw [none] at found
    cases found
  · exact testFrom_of_valueFrom tested found

theorem exists_of_goto? {test : StateId → Nat → Nat → Bool} {state goal : StateId} {symbol : Symbol}
    (passed : testBlocks 64 (fun state row => testFrom (test state) groupLimit row.gotos) stateBlocks = true)
    (found : goto? state symbol = some goal) :
    ∃ set, (ruleSets.getD (symbol - Symbol.tokenCount) 0).testBit set = true ∧ test state set goal = true := by
  rcases test_of_testBlocks passed state ⟨0, 0, 0⟩ with none | tested
  · unfold goto? StateRow.goto? row at found
    rw [none] at found
    cases found
  · exact testFrom_of_valueFrom tested found

theorem lt_of_ruleSets {k set : Nat} (bit : (ruleSets.getD k 0).testBit set = true) : k < 84 := by
  refine Nat.lt_of_not_le fun beyond => ?_
  rw [Array.getD_eq_getD_getElem?, Array.getElem?_eq_none beyond, Option.getD_none, Nat.zero_testBit] at bit
  cases bit

/-! ### What can be done with a token -/

theorem rest_of_test {n m : Nat} {rest : Bool} (passed : (!Nat.beq n m || rest) = true) (same : n = m) : rest = true := by
  subst same
  rwa [Nat.beq_refl, Bool.not_true, Bool.false_or] at passed

section Actions

variable {state : StateId} {token symbol : Symbol} {number : Nat} {action : Action}

theorem isOrdinary_of_entryNumber (accepts : number ≠ acceptNumber) (recovers : number ≠ recoverNumber) :
    ∀ action ∈ (entryNumber number).actions, action.isOrdinary = true := by
  unfold entryNumber
  split_ifs with empty
  · exact List.forall_mem_nil _
  · rcases test_of_testBlocks survey.entries (number - 1) Entry.empty with none | passed
    · rw [none]
      exact List.forall_mem_nil _
    · have same : number - 1 + 1 = number := by omega
      rw [testEntry, same, Bool.or_eq_true, Bool.or_eq_true, Nat.beq_eq, Nat.beq_eq, List.all_eq_true] at passed
      exact passed.resolve_left (not_or.mpr ⟨accepts, recovers⟩)

/-- With a token a state accepts the text, or it skips the token, or all that it does is ordinary. -/
theorem actions_cases (state : StateId) (token : Symbol) :
    (state = StateId.behindMarkup ∧ token = Symbol.finish ∧ actions state token = [.accept]) ∨
    (state = StateId.recovery ∧ actions state token = [.recover]) ∨
    ∀ action ∈ actions state token, action.isOrdinary = true := by
  have empty : ∀ action ∈ Entry.empty.actions, action.isOrdinary = true :=
    List.forall_mem_nil _
  unfold actions entry
  split_ifs with beyond
  · exact Or.inr (Or.inr empty)
  · cases found : (row state).actionNumber? token with
    | none => exact Or.inr (Or.inr empty)
    | some number =>
      rw [Option.getD_some]
      obtain ⟨set, bit, tested⟩ := exists_of_actionNumber? survey.actions found
      rw [testAction, Bool.and_eq_true, Bool.and_eq_true] at tested
      -- Two entries are out of the ordinary, and the pass over the table has told where each of them stands.
      by_cases accepts : number = acceptNumber
      · have here := rest_of_test tested.1.1 accepts
        rw [Bool.and_eq_true, Nat.beq_eq, Nat.beq_eq] at here
        have finish := survey.finish token (Nat.lt_of_not_le beyond) (here.2 ▸ bit)
        exact Or.inl ⟨here.1, finish, accepts ▸ survey.accept⟩
      · by_cases recovers : number = recoverNumber
        · have here := rest_of_test tested.1.2 recovers
          rw [Nat.beq_eq] at here
          exact Or.inr (Or.inl ⟨here, recovers ▸ survey.recover⟩)
        · exact Or.inr (Or.inr (isOrdinary_of_entryNumber accepts recovers))

/-- The token that stands in no text can only be skipped. -/
theorem actions_unwritten (state : StateId) (member : action ∈ actions state Symbol.unwritten) : action = .recover := by
  rw [actions, entry, if_neg (by decide)] at member
  cases found : (row state).actionNumber? Symbol.unwritten with
  | none =>
    rw [found] at member
    exact absurd member List.not_mem_nil
  | some number =>
    -- The token stands in one set only, that of all tokens, and with that set a state can only skip.
    obtain ⟨set, bit, tested⟩ := exists_of_actionNumber? survey.actions found
    rw [survey.unwritten, Nat.testBit_two_pow, decide_eq_true_eq] at bit
    rw [testAction, Bool.and_eq_true] at tested
    have recovers := rest_of_test tested.2 bit.symm
    rw [Nat.beq_eq] at recovers
    rw [found, Option.getD_some, recovers, survey.recover, List.mem_singleton] at member
    exact member

end Actions

/-! ### Which state follows -/

section Next

variable {state : StateId} {symbol : Symbol}

theorem next_unwritten (state : StateId) : next state Symbol.unwritten = StateId.recovery := by
  have token : Symbol.unwritten < Symbol.tokenCount := by decide
  rw [next, if_neg (by decide), if_pos token]
  cases last : (actions state Symbol.unwritten).getLast? with
  | none => rfl
  | some action =>
    rw [actions_unwritten state (List.mem_of_getLast? last)]

theorem markup_of_goto? (token : Symbol.tokenCount ≤ symbol) (found : goto? state symbol = some StateId.behindMarkup) :
    symbol = Symbol.markup := by
  obtain ⟨set, bit, tested⟩ := exists_of_goto? survey.gotos found
  have whole := rest_of_test tested rfl
  rw [Nat.beq_eq] at whole
  subst whole
  exact Nat.le_antisymm (Nat.sub_eq_zero_iff_le.mp (survey.markup _ (lt_of_ruleSets bit) bit)) token

end Next

end Grammar
end Ucode

import Ucode.Proofs.Grammar.Declarations

/-!
# What a rule is reduced over

A stack is a path along the steps of the table, and each step keeps what the certificate says of the topmost symbols
(`Leads.below`). So it holds of every path (`Reaches.mem_rolesBelow`), and as each rule takes whatever the certificate allows
for, it takes what is really there (`Reduces.takes`).
-/
namespace Ucode.Grammar

open StateRow

/-! ### Digits -/

section Digits

theorem digitAt_packed {width : Nat} {numbers : List Nat} (fit : ∀ n ∈ numbers, n < 2 ^ width) (place : Nat) :
    digitAt width (packed width numbers) place = numbers.getD place 0 := by
  induction numbers generalizing place with
  | nil => simp [digitAt, packed]
  | cons n numbers ih =>
    obtain ⟨first, others⟩ := List.forall_mem_cons.mp fit
    have here : packed width (n :: numbers) = n + 2 ^ width * packed width numbers := rfl
    -- The first number is the remainder, and the others are the quotient.
    rw [digitAt, Nat.shiftRight_eq_div_pow, here]
    cases place with
    | zero =>
      rw [Nat.mul_zero, Nat.pow_zero, Nat.div_one, Nat.add_mul_mod_self_left, Nat.mod_eq_of_lt first]
      rfl
    | succ place =>
      rw [Nat.mul_succ, Nat.add_comm (width * place), Nat.pow_add, ← Nat.div_div_eq_div_mul,
        Nat.add_mul_div_left _ _ (Nat.two_pow_pos width), Nat.div_eq_of_lt first, Nat.zero_add, ← Nat.shiftRight_eq_div_pow]
      exact ih others place

theorem digitAt_zero (place : Nat) : digitAt 4 0 place = 0 := by simp [digitAt]

theorem digitAt_succ (pattern place : Nat) : digitAt 4 pattern (place + 1) = digitAt 4 (pattern / 16) place := by
  rw [digitAt, digitAt, Nat.shiftRight_eq_div_pow, Nat.shiftRight_eq_div_pow, Nat.mul_succ, Nat.add_comm (4 * place),
    Nat.pow_add, ← Nat.div_div_eq_div_mul]

theorem rolesOf_subset (digit : Nat) : rolesOf digit ⊆ rolesOf 0 := by
  unfold rolesOf
  split <;> decide

theorem rolesOf_subset_of_covers {fuel pattern other : Nat} (covered : covers fuel pattern other = true) (place : Nat) :
    rolesOf (digitAt 4 other place) ⊆ rolesOf (digitAt 4 pattern place) := by
  induction fuel generalizing pattern other place with
  | zero => cases covered
  | succ fuel ih =>
    rw [covers, Bool.or_eq_true, Nat.beq_eq] at covered
    rcases covered with rfl | covered
    · rw [digitAt_zero]
      exact rolesOf_subset _
    · obtain ⟨here, below⟩ := (Bool.and_eq_true _ _).mp covered
      cases place with
      | succ place =>
        rw [digitAt_succ, digitAt_succ]
        exact ih below place
      | zero =>
        simp only [Bool.or_eq_true, Bool.and_eq_true, Nat.beq_eq] at here
        rw [digitAt, digitAt, Nat.mul_zero, Nat.shiftRight_zero, Nat.shiftRight_zero]
        -- The same digit, one that asks for nothing, or one that stands for two roles, of which the other is one.
        rcases here with ((same | any) | ⟨plain, both | both⟩) | ⟨name, both⟩
        · rw [show pattern % 2 ^ 4 = other % 2 ^ 4 from same]
          exact List.Subset.refl _
        · rw [show pattern % 2 ^ 4 = 0 from any]
          exact rolesOf_subset _
        · rw [show other % 2 ^ 4 = 1 from plain, show pattern % 2 ^ 4 = 12 from both]
          decide
        · rw [show other % 2 ^ 4 = 1 from plain, show pattern % 2 ^ 4 = 13 from both]
          decide
        · rw [show other % 2 ^ 4 = 3 from name, show pattern % 2 ^ 4 = 12 from both]
          decide

end Digits

/-- The roles that the symbol so far below a state can have. -/
def rolesBelow (state : StateId) (depth : Nat) : List Role := rolesOf (digitAt 4 (recent state) depth)

/-! ### What the pass has found -/

section Found

variable {state goal : StateId} {token symbol : Symbol} {set digit number : Nat}

theorem testBit_of_or {sets others : Nat} (within : sets ||| others = others) (bit : sets.testBit set = true) :
    others.testBit set = true := by
  rw [← within, Nat.testBit_or, bit, Bool.true_or]

theorem lt_of_testBit {sets bound : Nat} (small : sets < 2 ^ bound) (bit : sets.testBit set = true) : set < bound := by
  refine Nat.lt_of_not_le fun beyond => ?_
  rw [Nat.testBit_lt_two_pow (Nat.lt_of_lt_of_le small (Nat.pow_le_pow_right Nat.two_pos beyond))] at bit
  cases bit

theorem role_mem_of_tokenSets (known : token < Symbol.tokenCount) (bit : (tokenSets.getD token 0).testBit set = true) :
    Symbol.role token ∈ rolesOf (digitAt 4 tokenDigits set) := by
  obtain ⟨e, listed, role, within⟩ := inspection.tokens token known
  obtain ⟨small, digits⟩ := inspection.tokenDigits e listed
  have own := testBit_of_or within bit
  exact role ▸ digits set (lt_of_testBit small own) own

theorem role_mem_of_ruleSets {k : Nat} (bit : (ruleSets.getD k 0).testBit set = true) :
    Symbol.role (Symbol.tokenCount + k) ∈ rolesOf (digitAt 4 ruleDigits set) := by
  obtain ⟨e, listed, role, within⟩ := inspection.rules k (lt_of_ruleSets bit)
  obtain ⟨small, digits⟩ := inspection.ruleDigits e listed
  have own := testBit_of_or within bit
  exact role ▸ digits set (lt_of_testBit small own) own

theorem onValue_eq (test : Nat → Bool) (n : Nat) : onValue test n = test n := by cases n <;> rfl

/-- What is certain of a step from one state to another with a symbol of the roles of a digit. -/
structure Connects (state : StateId) (digit : Nat) (goal : StateId) : Prop where
  source : state ≠ StateId.recovery
  proper : goal ≠ StateId.recovery
  later : goal ≠ StateId.start
  top : rolesOf digit ⊆ rolesBelow goal 0
  below : ∀ depth, rolesBelow state depth ⊆ rolesBelow goal (depth + 1)

theorem ne_of_not_beq {n m : Nat} (passed : (!Nat.beq n m) = true) : n ≠ m := by
  rw [Bool.not_eq_true'] at passed
  exact Nat.ne_of_beq_eq_false passed

theorem connects_of_testStep (small : digit < 16) (passed : testStep state digit goal = true) :
    Connects state digit goal := by
  simp only [testStep, onValue_eq, Bool.and_eq_true] at passed
  obtain ⟨⟨⟨source, proper⟩, later⟩, covered⟩ := passed
  refine ⟨ne_of_not_beq source, ne_of_not_beq proper, ne_of_not_beq later, ?_, fun depth => ?_⟩
  -- The symbol of the step is the lowest digit, and below it is what was below the state.
  · have top := rolesOf_subset_of_covers covered 0
    rwa [digitAt, Nat.mul_zero, Nat.shiftRight_zero, show 2 ^ 4 = 16 from rfl, Nat.add_mul_mod_self_left,
      Nat.mod_eq_of_lt small] at top
  · have below := rolesOf_subset_of_covers covered (depth + 1)
    rwa [digitAt_succ, Nat.add_mul_div_left _ _ (by decide), Nat.div_eq_of_lt small, Nat.zero_add] at below

theorem digitAt_lt (numbers place : Nat) : digitAt 4 numbers place < 16 := Nat.mod_lt _ (by decide)

theorem parts_of_code (n kind : Nat) (small : kind < 4) : (4 * n + kind) % 4 = kind ∧ (4 * n + kind) / 4 = n := by
  omega

/-- The code of an action tells all about it. -/
def Action.IsCoded (action : Action) : Prop :=
  action.code < 2 ^ 32 ∧ ∀ symbol count production, action = .reduce symbol count production → symbol < 256 ∧ count < 16

/-- The code of an entry tells all about its actions, of which there are at most two. -/
structure Entry.IsCoded (e : Entry) (index : Nat) : Prop where
  code : digitAt 64 entryCodes index = e.code
  few : e.actions.length ≤ 2
  each : ∀ action ∈ e.actions, action.IsCoded

theorem Entry.isCoded_of_testCode {e : Entry} {index : Nat} (passed : testCode index e = true) : e.IsCoded index := by
  simp only [testCode, Bool.and_eq_true, Nat.beq_eq, Nat.ble_eq, List.all_eq_true] at passed
  obtain ⟨⟨code, few⟩, all⟩ := passed
  refine ⟨code, few, fun action member => ?_⟩
  obtain ⟨small, parts⟩ := all action member
  refine ⟨Nat.ble_eq.mp small, ?_⟩
  rintro symbol count production rfl
  obtain ⟨symbol', count'⟩ := (Bool.and_eq_true _ _).mp parts
  exact ⟨Nat.ble_eq.mp symbol', Nat.ble_eq.mp count'⟩

/-- Both actions of an entry pass if its code does. -/
theorem Entry.IsCoded.testAct_of_mem {e : Entry} {index : Nat} (coded : e.IsCoded index) {action : Action}
    (member : action ∈ e.actions) (first : testAct state set (digitAt 32 e.code 0) = true)
    (second : testAct state set (digitAt 32 e.code 1) = true) : testAct state set action.code = true := by
  have fit : ∀ n ∈ e.actions.map Action.code, n < 2 ^ 32 :=
    List.forall_mem_map.mpr fun other listed => (coded.each other listed).1
  rw [Entry.code, digitAt_packed fit] at first second
  have few := coded.few
  generalize e.actions = listed at member few first second
  -- Only two actions are tested, so there must not be a third one.
  match listed with
  | [] => cases member
  | [a] =>
    rw [List.mem_singleton.mp member]
    exact first
  | [a, b] =>
    rcases List.mem_cons.mp member with rfl | last
    · exact first
    · rw [List.mem_singleton.mp last]
      exact second
  | a :: b :: c :: others => exact absurd few (by simp)

theorem testAct_of_mem {action : Action} (member : action ∈ actions state token) : token < Symbol.tokenCount ∧
    ∃ set, (tokenSets.getD token 0).testBit set = true ∧ testAct state set action.code = true ∧ action.IsCoded := by
  have none : action ∉ Entry.empty.actions := List.not_mem_nil
  unfold actions entry at member
  split_ifs at member with beyond
  · exact absurd member none
  · refine ⟨Nat.lt_of_not_le beyond, ?_⟩
    cases found : (row state).actionNumber? token with
    | none =>
      rw [found] at member
      exact absurd member none
    | some number =>
      rw [found, Option.getD_some] at member
      obtain ⟨set, bit, tested⟩ := exists_of_actionNumber? inspection.actions found
      refine ⟨set, bit, ?_⟩
      unfold entryNumber at member
      split_ifs at member with zero
      · exact absurd member none
      · rw [testActions, Bool.or_eq_true, Nat.beq_eq, onValue_eq, Bool.and_eq_true] at tested
        obtain ⟨first, second⟩ := tested.resolve_left zero
        rcases test_of_testBlocks inspection.entries (number - 1) Entry.empty with empty | passed
        · rw [empty] at member
          exact absurd member none
        · have coded := Entry.isCoded_of_testCode passed
          rw [coded.code] at first second
          exact ⟨coded.testAct_of_mem member first second, coded.each action member⟩

end Found

/-! ### Steps -/

/-- One step of the table: a token is taken, or a node is put on the stack. -/
inductive Leads (state : StateId) (symbol : Symbol) (goal : StateId) : Prop
  | shift (taken : .shift goal ∈ actions state symbol)
  | shiftRepeat (taken : .shiftRepeat goal ∈ actions state symbol)
  | goto (rule : Symbol.tokenCount ≤ symbol) (follows : goto? state symbol = some goal)

/-- What is certain of a step with a symbol. -/
structure Leads.Facts (state : StateId) (symbol : Symbol) (goal : StateId) : Prop where
  source : state ≠ StateId.recovery
  proper : goal ≠ StateId.recovery
  later : goal ≠ StateId.start
  known : symbol < Symbol.ruleCount
  top : symbol.role ∈ rolesBelow goal 0
  below : ∀ depth, rolesBelow state depth ⊆ rolesBelow goal (depth + 1)
  behindMarkup : goal = StateId.behindMarkup → state = StateId.start ∧ symbol = Symbol.markup

section Steps

variable {state goal : StateId} {symbol token : Symbol}

theorem facts_of_testAct {set : Nat} {action : Action} (code : action.code = 4 * goal + 1)
    (known : symbol < Symbol.tokenCount) (bit : (tokenSets.getD symbol 0).testBit set = true)
    (tested : testAct state set action.code = true) : Leads.Facts state symbol goal := by
  obtain ⟨kind, whole⟩ := parts_of_code goal 1 (by decide)
  rw [testAct, code, kind, whole] at tested
  simp only [Bool.and_eq_true] at tested
  obtain ⟨⟨step, elsewhere⟩, _⟩ := tested
  have connects := connects_of_testStep (digitAt_lt _ _) step
  exact {
    source := connects.source
    proper := connects.proper
    later := connects.later
    known := Nat.lt_trans known (by decide)
    top := connects.top (role_mem_of_tokenSets known bit)
    below := connects.below
    behindMarkup := fun here => absurd here (ne_of_not_beq elsewhere) }

theorem Leads.facts (leads : Leads state symbol goal) : Leads.Facts state symbol goal := by
  cases leads with
  | shift taken =>
    obtain ⟨known, set, bit, tested, _⟩ := testAct_of_mem taken
    exact facts_of_testAct rfl known bit tested
  | shiftRepeat taken =>
    obtain ⟨known, set, bit, tested, _⟩ := testAct_of_mem taken
    exact facts_of_testAct rfl known bit tested
  | goto rule follows =>
    -- Unlike a token, a node can also lead behind the markup.
    obtain ⟨set, bit, tested⟩ := exists_of_goto? inspection.gotos follows
    rw [testGotos, Bool.and_eq_true] at tested
    have connects := connects_of_testStep (digitAt_lt _ _) tested.1
    have role := role_mem_of_ruleSets bit
    have small := lt_of_ruleSets bit
    rw [Nat.add_sub_cancel' rule] at role
    exact {
      source := connects.source
      proper := connects.proper
      later := connects.later
      known := (Nat.sub_lt_iff_lt_add rule).mp small
      top := connects.top role
      below := connects.below
      behindMarkup := by
        rintro rfl
        have start := rest_of_test tested.2 rfl
        rw [Nat.beq_eq] at start
        exact ⟨start, markup_of_goto? rule follows⟩ }

theorem ne_finish_of_mem {action : Action} (member : action ∈ actions state token)
    (takes : action = .shiftExtra ∨ ∃ goal, action = .shift goal) : token ≠ Symbol.finish := by
  obtain ⟨_, set, bit, tested, _⟩ := testAct_of_mem member
  have other : (tokenSets.getD Symbol.finish 0).testBit set = false := by
    rcases takes with rfl | ⟨goal, rfl⟩
    · simpa [testAct, Action.code] using tested
    · obtain ⟨kind, _⟩ := parts_of_code goal 1 (by decide)
      rw [testAct, Action.code, kind] at tested
      simp only [Bool.and_eq_true, Bool.not_eq_true'] at tested
      exact tested.2
  rintro rfl
  rw [other] at bit
  cases bit

/-- Where a symbol leads somewhere there is a step, or the symbol is a token that leaves the state. -/
theorem leads_of_next (placed : next state symbol ≠ StateId.recovery) :
    Leads state symbol (next state symbol) ∨ (symbol < Symbol.tokenCount ∧ next state symbol = state) := by
  rw [next] at placed ⊢
  split_ifs at placed ⊢ with special token
  · exact absurd rfl placed
  · cases last : (actions state symbol).getLast? with
    | none =>
      rw [last] at placed
      exact absurd rfl placed
    | some action =>
      have member := List.mem_of_getLast? last
      rw [last] at placed
      -- The last action of a list is what a state does with a token once all reductions are made.
      cases action with
      | shift goal => exact Or.inl (.shift member)
      | shiftRepeat goal => exact Or.inl (.shiftRepeat member)
      | shiftExtra => exact Or.inr ⟨token, rfl⟩
      | _ => exact absurd rfl placed
  · cases found : goto? state symbol with
    | none =>
      rw [found] at placed
      exact absurd rfl placed
    | some goal => exact Or.inl (.goto (Nat.not_lt.mp token) found)

end Steps

/-! ### Reductions -/

/-- What is certain of a rule by which a state is reduced. -/
structure Reduces (state : StateId) (symbol : Symbol) (count production : Nat) : Prop where
  source : state ≠ StateId.recovery
  rule : Symbol.tokenCount ≤ symbol
  known : symbol < Symbol.ruleCount
  name : symbol.role = .name → count = 1
  markup : symbol = Symbol.markup → production = 0
  parts : ∀ part < count, ∀ r ∈ rolesBelow state (count - 1 - part), Production.takes symbol production part r = true
  last : symbol.isRepetition = true → ∀ r ∈ rolesBelow state 0, r = .plain ∨ r = .statement ∨ r = symbol.role

section Reductions

variable {state : StateId} {symbol token : Symbol} {count production : Nat}

theorem takes_of_testParts {pattern : Nat} (passed : testParts symbol production count pattern = true) (part : Nat)
    (within : part < count) : ∀ r ∈ rolesOf (digitAt 4 pattern (count - 1 - part)),
      Production.takes symbol production part r = true := by
  induction count generalizing pattern with
  | zero => exact absurd within (Nat.not_lt_zero part)
  | succ count ih =>
    rw [testParts, Bool.and_eq_true, List.all_eq_true] at passed
    obtain ⟨top, below⟩ := passed
    -- The test starts with the last part, which is on top, and goes on below it.
    rcases Nat.lt_succ_iff_lt_or_eq.mp within with lower | rfl
    · rw [show count + 1 - 1 - part = count - 1 - part + 1 by omega, digitAt_succ]
      exact ih below lower
    · rw [Nat.add_sub_cancel, Nat.sub_self, digitAt, Nat.mul_zero, Nat.shiftRight_zero]
      exact top

theorem parts_of_ruleCode (small : symbol < 256) (few : count < 16) (production : Nat) :
    ruleCode symbol count production % 256 = symbol ∧ ruleCode symbol count production / 256 % 16 = count ∧
      ruleCode symbol count production / 4096 = production := by
  have first : ruleCode symbol count production / 256 = count + 16 * production := by
    rw [ruleCode, Nat.add_mul_div_left _ _ (by decide), Nat.div_eq_of_lt small, Nat.zero_add]
  refine ⟨?_, ?_, ?_⟩
  · rw [ruleCode, Nat.add_mul_mod_self_left, Nat.mod_eq_of_lt small]
  · rw [first, Nat.add_mul_mod_self_left, Nat.mod_eq_of_lt few]
  · rw [show 4096 = 256 * 16 from rfl, ← Nat.div_div_eq_div_mul, first, Nat.add_mul_div_left _ _ (by decide),
      Nat.div_eq_of_lt few, Nat.zero_add]

theorem reduces_of_mem (member : .reduce symbol count production ∈ actions state token) :
    Reduces state symbol count production := by
  obtain ⟨_, set, _, tested, _, parts⟩ := testAct_of_mem member
  obtain ⟨small, few⟩ := parts symbol count production rfl
  -- The number of the rule is taken apart again to see what the test has asked of it.
  obtain ⟨kind, whole⟩ := parts_of_code (ruleCode symbol count production) 2 (by decide)
  obtain ⟨own, length, number⟩ := parts_of_ruleCode small few production
  rw [testAct, Action.code, kind, whole] at tested
  simp only [Bool.and_eq_true, onValue_eq, testReduction, own, length, number, Nat.ble_eq, Bool.or_eq_true, bne_iff_ne,
    Nat.beq_eq] at tested
  obtain ⟨source, ⟨⟨⟨⟨⟨rule, known⟩, name⟩, markup⟩, all⟩, last⟩⟩ := tested
  exact {
    source := ne_of_not_beq source
    rule := rule
    known := Nat.ble_eq.mp known
    name := fun here => name.resolve_left (fun other => other here)
    markup := fun here => markup.resolve_left (fun other => other here)
    parts := fun part within => takes_of_testParts all part within
    last := fun here => by
      rw [here, Bool.not_true] at last
      have all := last.resolve_left Bool.false_ne_true
      simpa [rolesBelow, digitAt, or_assoc] using all }

end Reductions

/-! ### Paths -/

/-- A state is reached from another one along some symbols, the lowest first. -/
inductive Reaches (goal : StateId) : StateId → List Symbol → Prop
  | here : Reaches goal goal []
  | step {state behind : StateId} {symbol : Symbol} {symbols : List Symbol} (leads : Leads state symbol behind)
      (onward : Reaches goal behind symbols) : Reaches goal state (symbol :: symbols)

section Paths

variable {state goal : StateId} {symbols : List Symbol} {symbol : Symbol} {count production : Nat}

/-- What lies below a path's first state lies below its last one, only deeper. -/
theorem Reaches.rolesBelow_subset (reaches : Reaches goal state symbols) (depth : Nat) :
    rolesBelow state depth ⊆ rolesBelow goal (symbols.length + depth) := by
  induction reaches generalizing depth with
  | here =>
    rw [List.length_nil, Nat.zero_add]
    exact List.Subset.refl _
  | step leads _ ih =>
    refine List.Subset.trans (leads.facts.below depth) ?_
    rw [List.length_cons, show ∀ n, n + 1 + depth = n + (depth + 1) by omega]
    exact ih (depth + 1)

/-- The certificate is right about the symbols of a path. -/
theorem Reaches.mem_rolesBelow (reaches : Reaches goal state symbols) (part : Nat) (within : part < symbols.length) :
    symbols[part].role ∈ rolesBelow goal (symbols.length - 1 - part) := by
  induction reaches generalizing part with
  | here => exact absurd within (Nat.not_lt_zero part)
  | step leads onward ih =>
    cases part with
    -- The first step puts its symbol on top, where it is found again below the later ones.
    | zero => exact onward.rolesBelow_subset 0 leads.facts.top
    | succ part =>
      rw [List.length_cons] at within ⊢
      rw [List.getElem_cons_succ, show ∀ n, n + 1 - 1 - (part + 1) = n - 1 - part by omega]
      exact ih part (Nat.lt_of_succ_lt_succ within)

theorem Reaches.source (reaches : Reaches goal state symbols) (proper : goal ≠ StateId.recovery) :
    state ≠ StateId.recovery := by
  cases reaches with
  | here => exact proper
  | step leads => exact leads.facts.source

theorem Reduces.takes (reduces : Reduces goal symbol symbols.length production) (reaches : Reaches goal state symbols)
    (part : Nat) (within : part < symbols.length) :
    Production.takes symbol production part symbols[part].role = true :=
  reduces.parts part within _ (reaches.mem_rolesBelow part within)

theorem exists_takes_eq_false (symbol : Symbol) (production part : Nat) :
    ∃ r ∈ rolesOf 0, Production.takes symbol production part r = false := by
  by_cases name : symbol.role = .name
  · refine ⟨.plain, by decide, ?_⟩
    rw [Production.takes, if_pos name]
    rfl
  · cases guise : (Production.get production).alias? part with
    | some guise' =>
      refine ⟨.header, by decide, ?_⟩
      rw [Production.takes, if_neg name, guise]
      rfl
    | none =>
      -- A header stands in loops only, and the items of one only in a header.
      by_cases header : symbol.role = .header
      · refine ⟨.header, by decide, ?_⟩
        rw [Production.takes, if_neg name, guise]
        simp [Production.holds, header]
      · refine ⟨.items, by decide, ?_⟩
        rw [Production.takes, if_neg name, guise]
        simp [Production.holds, header]

/-- A reduction does not go below the state in which the text starts, where nothing is known of what is there. -/
theorem Reduces.length_le (reduces : Reduces goal symbol count production)
    (reaches : Reaches goal StateId.start symbols) : count ≤ symbols.length := by
  refine Nat.le_of_not_lt fun more => ?_
  -- Any role is allowed for there, so a rule that goes so far would take what no rule takes.
  obtain ⟨r, any, refused⟩ := exists_takes_eq_false symbol production (count - 1 - symbols.length)
  have bottom : rolesBelow StateId.start 0 = rolesOf 0 := by decide +kernel
  have below := reaches.rolesBelow_subset 0 (bottom ▸ any)
  rw [Nat.add_zero] at below
  have taken := reduces.parts (count - 1 - symbols.length) (by omega) r
  rw [show count - 1 - (count - 1 - symbols.length) = symbols.length by omega, refused] at taken
  exact absurd (taken below) Bool.false_ne_true

end Paths
end Ucode.Grammar

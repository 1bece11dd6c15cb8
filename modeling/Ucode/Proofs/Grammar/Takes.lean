import Ucode.Proofs.Grammar.Survey
import Ucode.Proofs.Grammar.Declarations

/-!
# What a rule takes

What `Production.takes` says about names: a repetition takes parts of its own wherever it takes others, and what leads to a name
stands in one of a few places. There the names are in the fields that belong to the rule, and of two names in one field the rule
has a slot for the later one.
-/
namespace Ucode

/-! ### Fields for names -/

/-- The fields in which the names of a role are seen. -/
def Role.fields : Role → List Field
  | constants | earlierConstants | lets | earlierLets => [Field.declared]
  | items | header | loop => Field.iterated
  | _ => []

namespace Symbol

/-- The fields in which names are seen below a node of the symbol. -/
def namingFields (s : Symbol) : List Field :=
  if s = declaration then [Field.declared] else if s = forStatement then Field.iterated else s.role.fields

/-- The one part of a rule in which names are, if there is only one. -/
def place? (s : Symbol) : Option Nat :=
  if s = declaration ∨ s = forStatement ∨ s.role = .header then some 0 else if s.role = .loop then some 2 else none

/-- Whether the symbol is a repetition of names that others follow. -/
def IsEarlier (s : Symbol) : Prop := s.role = .earlierConstants ∨ s.role = .earlierLets

theorem namingFields_of_role {s : Symbol} (other : s.role ≠ .statement) : s.namingFields = s.role.fields := by
  rw [namingFields, if_neg, if_neg] <;> rintro rfl <;> exact other (by decide)

theorem place?_of_role {s : Symbol} (other : s.role ≠ .statement) (header : s.role ≠ .header) (loop : s.role ≠ .loop) :
    s.place? = none := by
  rw [place?, if_neg, if_neg loop]
  rintro (rfl | rfl | own)
  · exact other (by decide)
  · exact other (by decide)
  · exact header own

end Symbol

/-! ### The roles of symbols -/

namespace Symbol

/-- What the tables of symbols and productions say about roles. -/
structure RoleTable : Prop where
  size : kindCount ≤ table.size
  sets : ∀ e ∈ table.toList.zipIdx, e.2 < ruleCount → unseenSet.testBit e.2 = (!e.1.visibility.isVisible) ∧
    repetitionSet.testBit e.2 = (e.1.visibility == .auxiliary)
  repetition : ∀ s < ruleCount, isRepetition s = true →
    role s = .plain ∨ role s = .earlierConstants ∨ role s = .earlierLets
  word : ∀ s < tokenCount, role s = .word → s = word
  rule : ∀ s < ruleCount, tokenCount ≤ s → role s ≠ .word
  name : ∀ s < ruleCount, role s = .name → s = variableName
  hidden : ∀ s < ruleCount, unseenSet.testBit s = true → role s ≠ .statement ∧ role s ≠ .name
  seen : ∀ s < ruleCount, unseenSet.testBit s = false → (role s).fields = []
  searched : ∀ s < ruleCount, namingFields s ≠ [] → isSearched s = true
  guises : ∀ p ∈ Production.table.toList, ∀ a ∈ p.aliases, a.2 ≠ variableName

theorem roleTable : RoleTable := by constructor <;> decide +kernel

/-- A symbol stands in the table, where it is found faster than by its number. -/
theorem mem_table {s : Symbol} (known : s < kindCount) :
    (s.info, s) ∈ table.toList.zipIdx ∧ s.info.visibility = s.visibility := by
  have within : s < table.size := Nat.lt_of_lt_of_le known roleTable.size
  have proper : s ≠ error := Nat.ne_of_lt (Nat.lt_trans known (by decide))
  have proper' : s ≠ errorRepeat := Nat.ne_of_lt (Nat.lt_trans known (by decide))
  have own : s.info = table[s] := by
    rw [info, if_neg proper, if_neg proper', Array.getD_eq_getD_getElem?, Array.getElem?_eq_getElem within]
    rfl
  refine ⟨by rw [List.mem_zipIdx_iff_getElem?, Array.getElem?_toList, Array.getElem?_eq_getElem within, own], ?_⟩
  rw [visibility, if_neg proper, visibilities, Array.getD_eq_getD_getElem?, Array.getElem?_map,
    Array.getElem?_eq_getElem within, own]
  rfl

theorem sets_eq {s : Symbol} (known : s < ruleCount) :
    unseenSet.testBit s = (!isVisible s) ∧ isRepetition s = (visibility s == .auxiliary) := by
  obtain ⟨listed, own⟩ := mem_table (Nat.lt_trans known (by decide))
  rw [isVisible, ← own]
  exact roleTable.sets _ listed known

theorem isVisible_of_sets {s : Symbol} (known : s < ruleCount) (seen : unseenSet.testBit s = false) : s.isVisible = true := by
  rwa [(sets_eq known).1, Bool.not_eq_false'] at seen

theorem role_of_hidden {s : Symbol} (known : s < ruleCount) (hidden : s.isVisible = false) :
    s.role ≠ .statement ∧ s.role ≠ .name :=
  roleTable.hidden s known (by rw [(sets_eq known).1, hidden, Bool.not_false])

theorem fields_of_isVisible {s : Symbol} (known : s < ruleCount) (visible : s.isVisible = true) : s.role.fields = [] :=
  roleTable.seen s known (by rw [(sets_eq known).1, visible, Bool.not_true])

theorem isSearched_of_hidden {s : Symbol} (known : s < ruleCount) (hidden : s.isVisible = false) (role : s.role ≠ .function) :
    s.isSearched = true := by
  rw [isSearched, (sets_eq known).1, hidden, Bool.not_false, Bool.true_and, bne_iff_ne.mpr role, Bool.true_or]

end Symbol

/-! ### What a rule takes -/

namespace Production

variable {symbol : Symbol} {production part : Nat} {r : Role}

theorem takes_skipped (symbol : Symbol) (production part : Nat) : takes symbol production part .skipped = false := by
  by_cases name : symbol.role = .name
  · rw [takes, if_pos name]
    rfl
  · rw [takes, if_neg name]
    cases (get production).alias? part <;> simp [Role.isSeenAs, holds]

theorem eq_word_of_takes (name : symbol.role = .name) (taken : takes symbol production part r = true) : r = .word := by
  rw [takes, if_pos name] at taken
  exact eq_of_beq taken

/-- A repetition takes a part of its own wherever it takes one that no name is seen through. -/
theorem takes_of_isRepetition (known : symbol < Symbol.ruleCount) (repetition : symbol.isRepetition = true)
    (exchanged : r = .plain ∨ r = .statement ∨ r = symbol.role) :
    takes symbol production part r = takes symbol production part .plain := by
  have own := Symbol.roleTable.repetition symbol known repetition
  have name : symbol.role ≠ .name := by
    rcases own with own | own | own <;> rw [own] <;> decide
  have other : (r == .name) = false := by
    rcases exchanged with rfl | rfl | rfl
    · rfl
    · rfl
    · exact beq_false_of_ne name
  -- What it is exchanged for is held as a plain part is.
  have held : (get production).holds symbol part r = true := by
    rcases exchanged with rfl | rfl | rfl
    · rfl
    · rfl
    · rcases own with own | own | own <;> rw [own] <;> simp [holds, own]
  rw [takes, takes, if_neg name, if_neg name]
  -- No part of a repetition is given a guise but a name.
  cases (get production).alias? part with
  | none =>
    have plain : (get production).holds symbol part .plain = true := rfl
    simp only [held, plain, other]
    rfl
  | some guise => simp only [other, repetition, Bool.not_true, Bool.or_false, Bool.and_false, Bool.false_and]; rfl

variable {s : Symbol} {f : Field}

/-- A part of a node in which a name is seen in a field: it is the only one, or the rule has that field there or later. -/
def Reserves (p : Production) (s : Symbol) (part : Nat) (f : Field) : Prop :=
  s.place? = some part ∨ (s.place? = none ∧ ∃ slot ∈ p.fields, slot.field = f ∧ part ≤ slot.part)

theorem exists_of_alias? {guise : Symbol} (found : (get production).alias? part = some guise) :
    ∃ p ∈ table.toList, (part, guise) ∈ p.aliases := by
  obtain ⟨before, after, split, _⟩ := List.lookup_eq_some_iff.mp found
  have among : (part, guise) ∈ (get production).aliases := by simp [split]
  rw [get, Array.getD_eq_getD_getElem?] at among
  cases here : table[production]? with
  | none =>
    rw [here] at among
    exact absurd among List.not_mem_nil
  | some p =>
    rw [here] at among
    exact ⟨p, Array.mem_toList_iff.mpr (Array.mem_of_getElem? here), among⟩

theorem alias_ne_variableName {guise : Symbol} (found : (get production).alias? part = some guise) :
    guise ≠ Symbol.variableName := by
  obtain ⟨p, listed, among⟩ := exists_of_alias? found
  exact Symbol.roleTable.guises p listed _ among

theorem exists_slot_of_field? {p : Production} (field : p.field? part = some f) :
    ∃ slot ∈ p.fields, slot.field = f ∧ part ≤ slot.part := by
  obtain ⟨slot, found, rfl⟩ := Option.map_eq_some_iff.mp field
  have own := List.find?_some found
  simp only [Bool.and_eq_true, beq_iff_eq] at own
  exact ⟨slot, List.mem_of_find?_eq_some found, rfl, Nat.le_of_eq own.2.symm⟩

theorem exists_slot_of_hasLater {p : Production} (later : p.hasLater f part = true) :
    ∃ slot ∈ p.fields, slot.field = f ∧ part ≤ slot.part := by
  obtain ⟨slot, member, own⟩ := List.any_eq_true.mp later
  simp only [Bool.and_eq_true, beq_iff_eq, decide_eq_true_eq] at own
  exact ⟨slot, member, own.1, Nat.le_of_lt own.2⟩

theorem hasLater_of_slot {p : Production} {slot : FieldSlot} (member : slot ∈ p.fields) (later : part < slot.part) :
    p.hasLater slot.field part = true :=
  List.any_eq_true.mpr ⟨slot, member, by simp [later]⟩

theorem role_ne_name_of_takes (taken : takes s production part r = true) (other : r ≠ .word) : s.role ≠ .name :=
  fun name => other (eq_word_of_takes name taken)

theorem holds_of_takes (taken : takes s production part r = true) (own : (get production).alias? part = none)
    (other : s.role ≠ .name) : (get production).holds s part r = true ∧
      (r ≠ .name → s.isSearched = true → ((get production).field? part).any Field.isNaming = false) := by
  rw [takes, if_neg other, own, Bool.and_eq_true, Bool.or_eq_true, Bool.not_eq_true', Bool.and_eq_false_iff] at taken
  refine ⟨taken.1, fun unnamed searched => ?_⟩
  rcases taken.2 with same | quiet | quiet
  · exact absurd (eq_of_beq same) unnamed
  · exact absurd (quiet.symm.trans searched) Bool.false_ne_true
  · exact quiet

theorem quiet_of_takes {guise : Symbol} (taken : takes s production part r = true)
    (shown : (get production).alias? part = some guise) (other : s.role ≠ .name) : r.isSeenAs guise = true ∧
      (s.isSearched = true → ((get production).field? part).any Field.isNaming = false) := by
  rw [takes, if_neg other, shown, Bool.and_eq_true, Bool.and_eq_true, Bool.not_eq_true', Bool.and_eq_false_iff] at taken
  refine ⟨taken.1.1, fun searched => ?_⟩
  rcases taken.2 with quiet | quiet
  · exact absurd (quiet.symm.trans searched) Bool.false_ne_true
  · exact quiet

theorem isSeenAs_of_takes {guise : Symbol} (taken : takes s production part r = true)
    (shown : (get production).alias? part = some guise) : r.isSeenAs guise = true := by
  by_cases name : s.role = .name
  · rw [eq_word_of_takes name taken]
    rfl
  · exact (quiet_of_takes taken shown name).1

/-- A name that is a part itself stands in a field, and its place is reserved. -/
theorem field_of_holds {p : Production} (held : p.holds s part .name = true) :
    ∃ f ∈ s.namingFields, p.field? part = some f ∧ p.Reserves s part f := by
  have reserved (other : s.role ≠ .statement ∧ s.role ≠ .header ∧ s.role ≠ .loop) {f : Field}
      (field : p.field? part = some f) : p.Reserves s part f :=
    Or.inr ⟨Symbol.place?_of_role other.1 other.2.1 other.2.2, exists_slot_of_field? field⟩
  have fields (other : s.role ≠ .statement) : s.namingFields = s.role.fields := Symbol.namingFields_of_role other
  unfold holds at held
  -- Only declarations and what a loop runs through take a name itself.
  cases own : s.role <;> rw [own] at held reserved fields
  case constants | lets | earlierConstants | earlierLets =>
    have field : p.field? part = some Field.declared := eq_of_beq held
    refine ⟨Field.declared, ?_, field, reserved (by decide) field⟩
    rw [fields (by decide)]
    exact List.mem_singleton_self _
  case items =>
    obtain ⟨f, field, among⟩ : ∃ f, p.field? part = some f ∧ Field.iterated.contains f = true := by
      simpa [Option.any_eq_true] using held
    refine ⟨f, ?_, field, reserved (by decide) field⟩
    rw [fields (by decide)]
    exact List.contains_iff_mem.mp among
  all_goals exact absurd held Bool.false_ne_true

/-- What leads to names stands where the fields of the rule are those of the names, and in a place that is reserved. -/
theorem reserves_of_holds {p : Production} (held : p.holds s part r = true) (seen : f ∈ r.fields) :
    f ∈ s.namingFields ∧ (¬ s.IsEarlier → p.Reserves s part f) := by
  have fields (other : s.role ≠ .statement) : s.namingFields = s.role.fields := Symbol.namingFields_of_role other
  have only (own : s.place? = some part) : ¬ s.IsEarlier → p.Reserves s part f := fun _ => Or.inl own
  -- One case for each role that has names in it; the others have no fields.
  cases r
  case constants | lets =>
    simp only [holds, Bool.and_eq_true, beq_iff_eq] at held
    obtain ⟨rfl, rfl⟩ := held
    exact ⟨seen, only rfl⟩
  case earlierConstants | earlierLets =>
    simp only [holds, Bool.or_eq_true, Bool.and_eq_true, beq_iff_eq] at held
    -- The earlier names stand in a repetition of them, which need not have more, or in the rule for the last one.
    rcases held with own | ⟨own, later⟩
    · rw [fields (by rw [own]; decide), own]
      exact ⟨seen, fun last => absurd (by simp [Symbol.IsEarlier, own]) last⟩
    · rw [fields (by rw [own]; decide), own]
      refine ⟨seen, fun _ => Or.inr ⟨Symbol.place?_of_role ?_ ?_ ?_, exists_slot_of_hasLater ?_⟩⟩
      · rw [own]; decide
      · rw [own]; decide
      · rw [own]; decide
      · rwa [List.mem_singleton.mp seen]
  case items =>
    simp only [holds, Bool.and_eq_true, beq_iff_eq] at held
    obtain ⟨own, rfl⟩ := held
    rw [fields (by rw [own]; decide), own]
    exact ⟨seen, only (by rw [Symbol.place?, if_pos (Or.inr (Or.inr own))])⟩
  case header =>
    simp only [holds, Bool.and_eq_true, beq_iff_eq] at held
    obtain ⟨own, rfl⟩ := held
    rw [fields (by rw [own]; decide), own]
    refine ⟨seen, only ?_⟩
    rw [Symbol.place?, if_neg, if_pos own]
    rintro (rfl | rfl | header)
    · exact absurd own (by decide)
    · exact absurd own (by decide)
    · exact absurd (own.symm.trans header) (by decide)
  case loop =>
    simp only [holds, Bool.and_eq_true, beq_iff_eq] at held
    obtain ⟨rfl, rfl⟩ := held
    exact ⟨seen, only rfl⟩
  all_goals exact absurd seen List.not_mem_nil

theorem hasLater_of_holds {p : Production} (held : p.holds s part r = true)
    (earlier : r = .earlierConstants ∨ r = .earlierLets) (last : ¬ s.IsEarlier) :
    s.namingFields = [Field.declared] ∧ p.hasLater Field.declared part = true := by
  rcases earlier with rfl | rfl <;>
  · simp only [holds, Bool.or_eq_true, Bool.and_eq_true, beq_iff_eq] at held
    rcases held with own | ⟨own, later⟩
    · exact absurd (by simp [Symbol.IsEarlier, own]) last
    · rw [Symbol.namingFields_of_role (by rw [own]; decide), own]
      exact ⟨rfl, later⟩

end Production

end Ucode

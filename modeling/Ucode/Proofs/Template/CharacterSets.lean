import Ucode.Proofs.Template.Literals

/-!
# What the members of a set are told by

The readers of numerals and escape sequences tell the members of a set by their low byte, and a low byte of zero is in every
set. So a numeral, or the digits of an escape sequence, can hold code points that belong to no set; they are what they should
be exactly if all of them are single bytes other than NUL (`Context.scan_members`).
-/
namespace Ucode

namespace CodePoint

variable {members : List Char} {c : CodePoint} {text : List CodePoint}

/-- What the test for a member lets by: a low byte that is zero or that of a member. -/
def Passes (members : List Char) (c : CodePoint) : Prop := c % 256 = 0 ∨ IsOneOf members (c % 256)

instance (members : List Char) (c : CodePoint) : Decidable (Passes members c) := inferInstanceAs (Decidable (_ ∨ _))

theorem isAmong_iff_passes : isAmong members c = true ↔ c ≠ nul ∧ Passes members c := by
  simp [isAmong, Passes, IsOneOf]

theorem Passes.mono {others : List Char} (subset : members ⊆ others) (passes : Passes members c) : Passes others c :=
  passes.imp_right fun ⟨m, member, same⟩ => ⟨m, subset member, same⟩

/-- What passes a set of single bytes is in it exactly if it is a single byte. -/
theorem forall_isOneOf_iff (bytes : Bytes (members.map Char.toNat)) (passes : ∀ c ∈ text, Passes members c) :
    (∀ c ∈ text, IsOneOf members c) ↔ Bytes text := by
  refine forall₂_congr fun c member => ⟨?_, fun byte => ?_⟩
  · rintro ⟨m, among, rfl⟩
    exact bytes _ (List.mem_map_of_mem among)
  · have low : c % 256 = c := Nat.mod_eq_of_lt byte.2
    rcases passes c member with zero | among
    · rw [low] at zero
      exact absurd zero (Nat.ne_of_gt byte.1)
    · rwa [low] at among

end CodePoint

namespace Template

open CodePoint

namespace Numeral

/-- The characters that numerals are written with. -/
def characters : List Char := Digit.hex ++ ['x', 'X', 'o', 'O', 'b', 'B', '.', 'e', 'E', '+', '-']

/-- From a place in a text to a later one everything passes for a character of numerals. -/
def Past (text rest : List CodePoint) : Prop := ∃ front, text = front ++ rest ∧ ∀ c ∈ front, Passes characters c

variable {members : List Char} {first : CodePoint} {text rest behind : List CodePoint}

theorem Past.refl (text : List CodePoint) : Past text text := ⟨[], rfl, nofun⟩

theorem Past.trans (past : Past text rest) (others : Past rest behind) : Past text behind := by
  obtain ⟨front, rfl, passes⟩ := past
  obtain ⟨more, rfl, morePasses⟩ := others
  exact ⟨front ++ more, by simp, List.forall_mem_append.mpr ⟨passes, morePasses⟩⟩

theorem Past.cons {c : CodePoint} (passes : Passes characters c) (past : Past text rest) : Past (c :: text) rest := by
  obtain ⟨front, rfl, others⟩ := past
  exact ⟨c :: front, rfl, List.forall_mem_cons.mpr ⟨passes, others⟩⟩

theorem tryOne_cons (members : List Char) (c : CodePoint) (rest : List CodePoint) :
    (tryOne members (c :: rest)).2 = rest ↔ Passes members c := by
  have longer : c :: rest ≠ rest := by simp
  rw [tryOne]
  split_ifs with among nul
  · simp [(isAmong_iff_passes.mp among).2]
  · subst nul
    exact iff_of_true rfl (Or.inl rfl)
  · exact iff_of_false longer fun passes => among (isAmong_iff_passes.mpr ⟨nul, passes⟩)

theorem past_tryOne (subset : members ⊆ characters) (text : List CodePoint) : Past text (tryOne members text).2 := by
  cases text with
  | nil => exact .refl []
  | cons c rest =>
    have all := tryOne_cons members c rest
    rw [tryOne] at all ⊢
    split_ifs at all ⊢
    · exact .cons ((all.mp rfl).mono subset) (.refl rest)
    · exact .cons ((all.mp rfl).mono subset) (.refl rest)
    · exact .refl _

theorem past_run (subset : members ⊆ characters) (text : List CodePoint) : Past text (run members text).2 := by
  induction text with
  | nil => exact .refl []
  | cons c rest ih =>
    rw [run]
    split_ifs with among nul
    · exact .cons ((isAmong_iff_passes.mp among).2.mono subset) ih
    · subst nul
      exact .cons (Or.inl rfl) (.refl rest)
    · exact .refl _

theorem past_radix (first : CodePoint) (text : List CodePoint) :
    Past text (radix first text).2 ∧ ∀ digits ∈ (radix first text).1, digits ⊆ characters := by
  -- The marks are tried one after the other, and a NUL is passed by each of them.
  have binary : Past text _ := past_tryOne (by decide : ['b', 'B'] ⊆ characters) text
  have octal := binary.trans (past_tryOne (by decide : ['o', 'O'] ⊆ characters) _)
  have hex := octal.trans (past_tryOne (by decide : ['x', 'X'] ⊆ characters) _)
  unfold radix
  dsimp only
  split_ifs
  · exact ⟨binary, by rintro _ ⟨⟩; decide⟩
  · exact ⟨octal, by rintro _ ⟨⟩; decide⟩
  · exact ⟨hex, by rintro _ ⟨⟩; decide⟩
  · exact ⟨hex, nofun⟩
  · exact ⟨.refl text, nofun⟩

theorem past_fraction (text : List CodePoint) : Past text (fraction text).2.2 := by
  unfold fraction
  split
  · exact .refl []
  · next c rest =>
    split_ifs with point
    · subst point
      exact .cons (by decide) (past_run (by decide) rest)
    · exact .refl _

theorem exists_past (first : CodePoint) (text : List CodePoint) :
    ∃ rest, Past text rest ∧ (ofDigits first text).read = text.length - rest.length := by
  obtain ⟨marked, digits⟩ := past_radix first text
  unfold ofDigits
  dsimp only
  generalize radix first text = mark at marked digits
  rcases mark with ⟨_ | members, behind⟩ <;> dsimp only at marked digits ⊢
  · -- Each part of a decimal is read behind the one before it.
    have decimal : Digit.decimal ⊆ characters := by decide
    have fractional := (marked.trans (past_run decimal behind)).trans (past_fraction _)
    have letter := fractional.trans (past_tryOne (by decide : ['e', 'E'] ⊆ characters) _)
    have sign := letter.trans (past_tryOne (by decide : ['+', '-'] ⊆ characters) _)
    split_ifs
    · exact ⟨_, sign.trans (past_run decimal _), rfl⟩
    · exact ⟨_, sign.trans (past_run decimal _), rfl⟩
    · exact ⟨_, letter, rfl⟩
    · exact ⟨_, fractional, rfl⟩
  · exact ⟨_, marked.trans (past_run (digits members rfl) behind), rfl⟩

theorem ofDigits_passes (first : CodePoint) (text : List CodePoint) :
    ∀ c ∈ text.take (ofDigits first text).stop, Passes characters c := by
  obtain ⟨rest, ⟨front, split, passes⟩, read⟩ := exists_past first text
  have within : (ofDigits first text).stop ≤ front.length := by
    have length := (ofDigits_length first text).1
    rw [read, congrArg List.length split, List.length_append, Nat.add_sub_cancel] at length
    exact length
  -- The token may end before what was read.
  generalize (ofDigits first text).stop = stop at within ⊢
  subst split
  rw [List.take_append_of_le_length within]
  exact fun c member => passes c (List.mem_of_mem_take member)

end Numeral

namespace Literal

/-- In a text an escape sequence begins right before what follows: its backslash is not one that another escapes. -/
inductive Escapes : List CodePoint → List CodePoint → Prop where
  | here {rest : List CodePoint} : Escapes (Char.toNat '\\' :: rest) rest
  | plain {c : CodePoint} {rest behind : List CodePoint} (other : c ≠ '\\') (later : Escapes rest behind) :
      Escapes (c :: rest) behind
  | escaped {c : CodePoint} {rest behind : List CodePoint} (later : Escapes rest behind) :
      Escapes (Char.toNat '\\' :: c :: rest) behind

/-- The letters of escape sequences with the count of their digits. -/
def hexMarks : List (Char × Nat) := [('u', 4), ('x', 2)]

/-- Where a letter with digits stands, all its digits pass. -/
def Digited (text : List CodePoint) : Prop :=
  ∀ mark ∈ hexMarks, ∀ rest, text = Char.toNat mark.1 :: rest →
    mark.2 ≤ rest.length ∧ ∀ c ∈ rest.take mark.2, c ≠ nul ∧ Passes Digit.hex c

variable {text rest behind : List CodePoint} {n : Nat} {e : End}

theorem Digited.of_prefix {word : List CodePoint} (digited : Digited word) (some : word ≠ []) (stands : word <+: text) :
    Digited text := by
  rintro mark member rest rfl
  obtain ⟨c, others, rfl⟩ := List.exists_cons_of_ne_nil some
  obtain ⟨rfl, front⟩ := List.cons_prefix_cons.mp stands
  obtain ⟨enough, passes⟩ := digited mark member others rfl
  have taken : rest.take mark.2 = others.take mark.2 := by
    obtain ⟨behind, rfl⟩ := front
    exact List.take_append_of_le_length enough
  exact ⟨enough.trans front.length_le, by rwa [taken]⟩

theorem hexEscape_passes {digits : Nat} (found : hexEscape digits text = some n) :
    n = digits + 1 ∧ digits ≤ text.length ∧ ∀ c ∈ text.take digits, c ≠ nul ∧ Passes Digit.hex c := by
  unfold hexEscape at found
  dsimp only at found
  split_ifs at found with enough
  cases found
  refine ⟨rfl, ?_, fun c member => isAmong_iff_passes.mp (List.all_eq_true.mp enough.2 c member)⟩
  have length := enough.1
  rw [List.length_take] at length
  omega

theorem escapes_cons_of_ne {c : CodePoint} (other : c ≠ '\\') : Escapes (c :: rest) behind ↔ Escapes rest behind := by
  constructor
  · intro escapes
    cases escapes with
    | here => exact absurd rfl other
    | plain _ later => exact later
    | escaped => exact absurd rfl other
  · exact .plain other

/-- A backslash begins an escape sequence, and the next one begins behind what it escapes. -/
theorem escapes_backslash : Escapes (Char.toNat '\\' :: rest) behind ↔ rest = behind ∨ Escapes (rest.drop 1) behind := by
  constructor
  · intro escapes
    cases escapes with
    | here => exact Or.inl rfl
    | plain other => exact absurd rfl other
    | escaped later => exact Or.inr later
  · rintro (rfl | later)
    · exact .here
    · cases rest with
      | nil => cases later
      | cons c rest => exact .escaped later

theorem escapes_append {front : List CodePoint} (proper : ∀ c ∈ front, c ≠ '\\') :
    Escapes (front ++ rest) behind ↔ Escapes rest behind := by
  induction front with
  | nil => rfl
  | cons c front ih =>
    obtain ⟨here, others⟩ := List.forall_mem_cons.mp proper
    rw [List.cons_append, escapes_cons_of_ne here, ih others]

theorem octalEscape_passes (found : octalEscape text = some n) : ∀ c ∈ text.take n, Passes Digit.octal c := by
  -- The digits that are counted are a beginning of the text, and at most a NUL behind them is read along.
  have counted := List.takeWhile_prefix (isAmong Digit.octal) (l := text.take 3)
  unfold octalEscape at found
  dsimp only at found
  obtain ⟨others, split⟩ := counted.trans (List.take_prefix 3 text)
  have passes : ∀ c ∈ (text.take 3).takeWhile (isAmong Digit.octal), Passes Digit.octal c :=
    fun c member => (isAmong_iff_passes.mp (List.mem_takeWhile_imp member)).2
  generalize (text.take 3).takeWhile (isAmong Digit.octal) = digits at found split passes
  subst split
  split_ifs at found with large null
  · cases found
    rw [List.drop_left] at null
    obtain ⟨rest, rfl⟩ := List.head?_eq_some_iff.mp null.2
    rw [List.take_append, List.take_of_length_le (Nat.le_succ _), Nat.add_sub_cancel_left, List.take_succ_cons, List.take_zero]
    exact List.forall_mem_append.mpr ⟨passes, List.forall_mem_singleton.mpr (Or.inl rfl)⟩
  · cases found
    rw [List.take_left]
    exact passes

theorem octalEscape_pos {c : Nat} (octal : Char.toNat '0' ≤ c ∧ c ≤ Char.toNat '7')
    (found : octalEscape (c :: rest) = some n) : 1 ≤ n := by
  have low : 48 ≤ c ∧ c ≤ 55 := octal
  have byte : 0 < c ∧ c < 256 := by omega
  have digit : isAmong Digit.octal c = true := (isAmong_iff byte).mpr ((isOneOf_octal_iff c).mpr octal)
  unfold octalEscape at found
  rw [List.take_succ_cons, List.takeWhile_cons_of_pos digit] at found
  dsimp only at found
  split_ifs at found <;> cases found <;> simp

/-- An escape sequence is not empty, and behind its first code point it has no backslash. -/
theorem escapeLength_proper (found : escapeLength text = some n) :
    1 ≤ n ∧ ∀ c ∈ (text.take n).drop 1, c ≠ '\\' := by
  -- A backslash passes neither for a hexadecimal digit nor for an octal one.
  have proper {members : List Char} (apart : ¬Passes members (Char.toNat '\\')) {front : List CodePoint}
      (passes : ∀ c ∈ front, Passes members c) : ∀ c ∈ front, c ≠ '\\' :=
    fun c member same => apart (same ▸ passes c member)
  unfold escapeLength at found
  split at found
  · cases found
  · next c rest =>
    split_ifs at found with unicode hex octal null
    · obtain ⟨rfl, _, digits⟩ := hexEscape_passes found
      exact ⟨by omega, proper (by decide : ¬Passes Digit.hex _) fun c member => (digits c member).2⟩
    · obtain ⟨rfl, _, digits⟩ := hexEscape_passes found
      exact ⟨by omega, proper (by decide : ¬Passes Digit.hex _) fun c member => (digits c member).2⟩
    · refine ⟨?_, proper (by decide : ¬Passes Digit.octal _) fun c member =>
        octalEscape_passes found c (List.mem_of_mem_drop member)⟩
      exact octalEscape_pos octal found
    · cases found
      exact ⟨Nat.le_refl 1, nofun⟩

theorem escapeLength_digited (found : escapeLength text = some n) : Digited (text.take n) := by
  rintro ⟨letter, count⟩ member rest split
  obtain ⟨others, rfl⟩ : ∃ others, text = Char.toNat letter :: others := by
    cases text with
    | nil => simp at split
    | cons c others =>
      cases n with
      | zero => cases split
      | succ n => exact ⟨others, by rw [(List.cons.inj split).1]⟩
  -- The letters with a count of digits are those of the two kinds of hexadecimal sequences.
  have hex : hexEscape count others = some n := by
    simp only [hexMarks, List.mem_cons, Prod.mk.injEq, List.not_mem_nil, or_false] at member
    rcases member with ⟨rfl, rfl⟩ | ⟨rfl, rfl⟩
    · exact found
    · exact found
  obtain ⟨rfl, enough, digits⟩ := hexEscape_passes hex
  obtain rfl := (List.cons.inj split).2
  rw [List.take_take, Nat.min_self, List.length_take]
  exact ⟨by dsimp only; omega, digits⟩

/-- A string has a body in front of its delimiter, and behind each escape letter of the body its digits. -/
theorem exists_body {delimiter : CodePoint} {owed : Nat} (other : delimiter ≠ templateMark ∧ delimiter ≠ regexMark)
    (found : endFrom delimiter owed text = some e) : ∃ body rest, text = body ++ delimiter :: rest ∧
      e.stop = body.length + 1 ∧ owed ≤ body.length ∧ ∀ behind, Escapes (body.drop owed) behind → Digited behind := by
  -- Along the reader: the code points that are owed to an escape sequence are passed over, and they have no backslash.
  fun_induction endFrom delimiter owed text generalizing e with
  | case1 => cases found
  | case2 owed c text ih =>
    obtain ⟨inner, here, rfl⟩ := Option.map_eq_some_iff.mp found
    obtain ⟨body, rest, rfl, stop, enough, escapes⟩ := ih here
    exact ⟨c :: body, rest, rfl, congrArg (· + 1) stop, Nat.succ_le_succ enough, escapes⟩
  | case3 => cases found
  | case4 c text _ mark => exact absurd mark.1 other.1
  | case5 c text _ mark => exact absurd mark.1 other.1
  | case6 c text _ _ mark => exact absurd mark.1 other.2
  | case7 c text _ _ mark => exact absurd mark.1 other.2
  | case8 => cases found
  | case9 text n length _ _ _ ih =>
    obtain ⟨inner, here, rfl⟩ := Option.map_eq_some_iff.mp found
    obtain ⟨body, rest, rfl, stop, enough, escapes⟩ := ih here
    have taken : (body ++ delimiter :: rest).take n = body.take n := List.take_append_of_le_length enough
    refine ⟨_ :: body, rest, rfl, congrArg (· + 1) stop, Nat.zero_le _, fun behind begins => ?_⟩
    obtain ⟨some, proper⟩ := escapeLength_proper length
    rcases escapes_backslash.mp begins with rfl | later
    · -- Its digits belong to the body, since the literal ends behind them.
      have digited := escapeLength_digited length
      rw [taken] at digited
      refine digited.of_prefix (List.length_pos_iff.mp ?_) (List.take_prefix n body)
      rw [List.length_take]
      omega
    · -- What is escaped has no backslash, so the next sequence begins behind it.
      rw [taken] at proper
      have long : 1 ≤ (body.take n).length := by
        rw [List.length_take]
        omega
      have split : body.drop 1 = (body.take n).drop 1 ++ body.drop n := by
        rw [← List.drop_append_of_le_length long, List.take_append_drop]
      rw [split, escapes_append proper] at later
      exact escapes behind later
  | case10 text =>
    cases found
    refine ⟨[], text, rfl, rfl, Nat.le_refl 0, fun behind begins => ?_⟩
    cases begins
  | case11 c text _ _ _ plain _ ih =>
    obtain ⟨inner, here, rfl⟩ := Option.map_eq_some_iff.mp found
    obtain ⟨body, rest, rfl, stop, enough, escapes⟩ := ih here
    refine ⟨c :: body, rest, rfl, congrArg (· + 1) stop, Nat.zero_le _, fun behind begins => ?_⟩
    exact escapes behind ((escapes_cons_of_ne plain).mp begins)

end Literal

/-- The text of a token. -/
def Scan.span (s : Scan) (text : List CodePoint) : List CodePoint := text.extract s.start s.stop

/-- The text of a token without its first and last code point. -/
def Scan.inner (s : Scan) (text : List CodePoint) : List CodePoint := text.extract (s.start + 1) (s.stop - 1)

theorem extract_behind (gap rest : List CodePoint) {start stop first last : Nat} (starts : first = start + gap.length)
    (length : last - first = stop - start) : (gap ++ rest).extract first last = rest.extract start stop := by
  subst starts
  rw [List.extract_eq_take_drop, List.extract_eq_take_drop, length, Nat.add_comm, List.drop_length_add_append]

namespace Context

variable {accepts : Token → Bool} {c : Context} {text : List CodePoint} {s : Scan}

theorem closeBrace_token (c : Context) : c.closeBrace.1 = .braceClose ∨ c.closeBrace.1 = .placeholderClose := by
  unfold closeBrace
  split <;> simp

theorem Reads.numeral_passes (reads : Reads c text s) (kind : s.token = some .number ∨ s.token = some .double) :
    ∀ x ∈ s.span text, Passes Numeral.characters x := by
  cases reads with
  | @numeral first rest _ split digit =>
    subst split
    have decimal : Digit.decimal ⊆ Numeral.characters := by decide
    exact List.forall_mem_cons.mpr ⟨(isAmong_iff_passes.mp digit).2.mono decimal, Numeral.ofDigits_passes first rest⟩
  | @literal delimiter =>
    unfold Literal.token at kind
    split_ifs at kind <;> simp at kind
  | braceClose => rcases c.closeBrace_token with token | token <;> simp [Scan.found, token] at kind
  | _ => rcases kind with kind | kind <;> cases kind

theorem Reads.string_digited (reads : Reads c text s) (kind : s.token = some .string) :
    ∀ behind, Literal.Escapes (s.inner text) behind → Literal.Digited behind := by
  -- Only a literal with a quote as its delimiter is a string.
  cases reads with
  | @literal delimiter rest e _ split _ ends =>
    have other : delimiter ≠ Literal.templateMark ∧ delimiter ≠ Literal.regexMark := by
      unfold Literal.token at kind
      split_ifs at kind with template regex <;> simp_all
    obtain ⟨body, behind, rfl, stop, _, escapes⟩ := Literal.exists_body other ends
    subst split
    have inner : (delimiter :: (body ++ delimiter :: behind)).extract 1 (1 + e.stop - 1) = body := by
      rw [stop, List.extract_eq_take_drop]
      simp
    intro next begins
    exact escapes next (inner ▸ begins)
  | numeral =>
    dsimp only at kind
    split_ifs at kind <;> cases kind
  | braceClose => rcases c.closeBrace_token with token | token <;> simp [Scan.found, token] at kind
  | _ => cases kind

/-- The text of a token that is no semicolon is that of a token read behind the blanks. -/
theorem scan_reads {t : Token} (found : (c.scan accepts text).token = some t) (other : t ≠ .semicolon) :
    ∃ rest s, Reads (c.start accepts) rest s ∧ s.token = some t ∧
      (c.scan accepts text).span text = s.span rest ∧ (c.scan accepts text).inner text = s.inner rest := by
  have finds := scan_finds accepts c text t found
  generalize c.scan accepts text = scan at finds found
  cases finds with
  | semicolon => exact absurd (Option.some.inj found).symm other
  | emptySemicolon => exact absurd (Option.some.inj found).symm other
  | @token gap rest s _ split _ reads =>
    subst split
    refine ⟨rest, s, reads, found, extract_behind gap rest rfl ?_, extract_behind gap rest ?_ ?_⟩ <;>
      simp only [Scan.behind] <;> omega

/-- Everything in a numeral passes for one of its characters, as do the digits of the escape sequences in a string for
hexadecimal digits, and they are what they pass for exactly if all of them are single bytes other than NUL. -/
theorem scan_members (c : Context) (accepts : Token → Bool) (text : List CodePoint) :
    let s := c.scan accepts text
    (s.token = some .number ∨ s.token = some .double → (∀ x ∈ s.span text, Passes Numeral.characters x) ∧
      ((∀ x ∈ s.span text, IsOneOf Numeral.characters x) ↔ Bytes (s.span text))) ∧
    (s.token = some .string →
      ∀ mark ∈ Literal.hexMarks, ∀ rest, Literal.Escapes (s.inner text) (Char.toNat mark.1 :: rest) →
        let digits := rest.take mark.2
        digits.length = mark.2 ∧ (∀ x ∈ digits, x ≠ nul ∧ Passes Digit.hex x) ∧
          ((∀ x ∈ digits, IsOneOf Digit.hex x) ↔ Bytes digits)) ∧
    ∀ members x rest, ((Numeral.tryOne members (x :: rest)).2 = rest ↔ Passes members x) ∧
      (0 < x ∧ x < 256 → (Passes members x ↔ IsOneOf members x)) := by
  intro s
  refine ⟨fun kind => ?_, fun kind => ?_, fun members x rest => ⟨Numeral.tryOne_cons members x rest, fun byte => ?_⟩⟩
  · have passes : ∀ x ∈ s.span text, Passes Numeral.characters x := by
      obtain ⟨t, found, number⟩ : ∃ t, s.token = some t ∧ (t = .number ∨ t = .double) := by
        rcases kind with found | found
        · exact ⟨_, found, Or.inl rfl⟩
        · exact ⟨_, found, Or.inr rfl⟩
      obtain ⟨rest, read, reads, same, span, _⟩ := scan_reads found (by rcases number with rfl | rfl <;> decide)
      rw [span]
      exact reads.numeral_passes (same ▸ number.imp (congrArg some) (congrArg some))
    exact ⟨passes, forall_isOneOf_iff (by decide) passes⟩
  · obtain ⟨rest, read, reads, same, _, inner⟩ := scan_reads kind (by decide)
    intro mark member digits begins
    rw [inner] at begins
    obtain ⟨enough, passes⟩ := reads.string_digited same _ begins mark member digits rfl
    refine ⟨List.length_take_of_le enough, passes, forall_isOneOf_iff (by decide) fun x member => (passes x member).2⟩
  · simp only [Passes, Nat.mod_eq_of_lt byte.2, Nat.ne_of_gt byte.1, false_or]

/-- Code points that belong to no numeral, or are no digits, are read as if they did: one whose low byte is that of a digit,
and NUL. -/
theorem scan_strays :
    let accepts : Token → Bool := fun t => t ≠ .rawText
    let stray : CodePoint := 0x130
    let text (front : List Char) (behind : List CodePoint) : List CodePoint := front.map Char.toNat ++ behind
    let found (text : List CodePoint) := (((fresh.scan accepts text).token, (fresh.scan accepts text).span text))
    found (text ['1'] [stray]) = (some .number, text ['1'] [stray]) ∧ ¬IsOneOf Numeral.characters stray ∧
      found (text ['1'] [nul]) = (some .number, text ['1'] [nul]) ∧ ¬IsOneOf Numeral.characters nul ∧
      found (text ['"', '\\', 'x'] [stray, stray, Char.toNat '"']) =
        (some .string, text ['"', '\\', 'x'] [stray, stray, Char.toNat '"']) ∧ ¬IsOneOf Digit.hex stray := by
  decide

end Context
end Template
end Ucode

import Ucode.Proofs.Template.Coherence
import Ucode.Proofs.Template.Literals

/-!
# Numerals are read as far as they go

`IsNumber` and `IsDouble` are the words that numerals are written with. Where a digit stands in code, the scan finds the longest
of them, although the reader may have gone on behind it in search of an exponent. All code points of the text are
single bytes and none of them is NUL.
-/
namespace Ucode.Template

/-- The longest of the words in a set that a text starts with. -/
structure Longest (words : List CodePoint → Prop) (text word : List CodePoint) : Prop where
  stands : word <+: text
  fits : words word
  longest : ∀ other, other <+: text → words other → other.length ≤ word.length

namespace Numeral

open CodePoint

/-! ### Words -/

/-- Digits of a kind, as many as one likes. -/
def Digits (members : List Char) (word : List CodePoint) : Prop := ∀ c ∈ word, IsOneOf members c

/-- The letters that tell a radix, with its digits. -/
def radixMarks : List (Char × List Char) :=
  [('b', Digit.binary), ('B', Digit.binary), ('o', Digit.octal), ('O', Digit.octal), ('x', Digit.hex), ('X', Digit.hex)]

/-- A number is a row of digits, or one behind a zero and the letter of a radix, where there may be none. -/
inductive IsNumber : List CodePoint → Prop where
  | radix {mark : Char} {members : List Char} {digits : List CodePoint} (kind : (mark, members) ∈ radixMarks)
      (all : Digits members digits) : IsNumber (Char.toNat '0' :: Char.toNat mark :: digits)
  | decimal {digits : List CodePoint} (some : digits ≠ []) (all : Digits Digit.decimal digits) : IsNumber digits

/-- An exponent is a letter, behind which digits may follow, then also with a sign. -/
inductive IsExponent : List CodePoint → Prop where
  | bare {letter : CodePoint} (kind : IsOneOf ['e', 'E'] letter) : IsExponent [letter]
  | power {letter : CodePoint} {sign digits : List CodePoint} (kind : IsOneOf ['e', 'E'] letter)
      (signed : sign = [] ∨ ∃ s, IsOneOf ['+', '-'] s ∧ sign = [s]) (some : digits ≠ [])
      (all : Digits Digit.decimal digits) : IsExponent (letter :: (sign ++ digits))

/-- What makes a row of digits a double: a fraction or an exponent. Before an exponent a fraction has digits. -/
inductive IsTail : List CodePoint → Prop where
  | fraction {digits : List CodePoint} (all : Digits Digit.decimal digits) : IsTail (Char.toNat '.' :: digits)
  | exponent {word : List CodePoint} (power : IsExponent word) : IsTail word
  | both {digits word : List CodePoint} (some : digits ≠ []) (all : Digits Digit.decimal digits) (power : IsExponent word) :
      IsTail (Char.toNat '.' :: (digits ++ word))

/-- A double is a row of digits with a fraction, an exponent, or both. -/
inductive IsDouble : List CodePoint → Prop where
  | tailed {digits tail : List CodePoint} (some : digits ≠ []) (all : Digits Digit.decimal digits) (tailed : IsTail tail) :
      IsDouble (digits ++ tail)

variable {members : List Char} {text word rest behind digits : List CodePoint} {c first : CodePoint}

theorem IsExponent.head (power : IsExponent word) : ∃ letter rest, word = letter :: rest ∧ IsOneOf ['e', 'E'] letter := by
  cases power with
  | bare kind => exact ⟨_, _, rfl, kind⟩
  | power kind => exact ⟨_, _, rfl, kind⟩

theorem IsTail.head (tailed : IsTail word) : ∃ c rest, word = c :: rest ∧ IsOneOf ['.', 'e', 'E'] c := by
  cases tailed with
  | fraction => exact ⟨_, _, rfl, '.', by simp, rfl⟩
  | both => exact ⟨_, _, rfl, '.', by simp, rfl⟩
  | exponent power =>
    obtain ⟨letter, rest, rfl, m, member, same⟩ := power.head
    exact ⟨letter, rest, rfl, m, List.mem_cons_of_mem _ member, same⟩

theorem not_decimal {marks : List Char} (apart : ∀ m ∈ marks.map Char.toNat, ¬IsOneOf Digit.decimal m)
    (mark : IsOneOf marks c) : ¬IsOneOf Digit.decimal c := by
  obtain ⟨m, member, rfl⟩ := mark
  exact apart _ (List.mem_map_of_mem member)

theorem not_decimal_tail (mark : IsOneOf ['.', 'e', 'E'] c) : ¬IsOneOf Digit.decimal c := not_decimal (by decide) mark

/-! ### Rows of digits -/

/-- Digits as far as they go in front of what follows them. -/
structure Row (members : List Char) (digits rest : List CodePoint) : Prop where
  all : Digits members digits
  ends : ∀ c ∈ rest.head?, ¬IsOneOf members c

/-- Digits that stand there belong to the row, and are all of it if something else stands behind them. -/
theorem Row.front (row : Row members digits rest) (all : Digits members word) (stands : word ++ behind <+: digits ++ rest) :
    word <+: digits ∧ ((∃ c ∈ behind.head?, ¬IsOneOf members c) → word = digits ∧ behind <+: rest) := by
  induction word generalizing digits with
  | nil =>
    refine ⟨List.nil_prefix, ?_⟩
    rintro ⟨c, heads, other⟩
    -- Where the word ends its follower is no digit, so the row ends there as well.
    cases digits with
    | nil => exact ⟨rfl, stands⟩
    | cons d digits =>
      obtain ⟨others, rfl⟩ := List.head?_eq_some_iff.mp heads
      obtain ⟨rfl, _⟩ := List.cons_prefix_cons.mp stands
      exact absurd (row.all c (List.mem_cons_self ..)) other
  | cons w word ih =>
    cases digits with
    | nil =>
      obtain ⟨others, same⟩ := stands
      refine absurd (all w (List.mem_cons_self ..)) (row.ends w ?_)
      rw [List.nil_append] at same
      simp [← same]
    | cons d digits =>
      obtain ⟨rfl, others⟩ := List.cons_prefix_cons.mp stands
      have inner := ih ⟨fun c member => row.all c (List.mem_cons_of_mem w member), row.ends⟩
        (fun c member => all c (List.mem_cons_of_mem w member)) others
      refine ⟨List.cons_prefix_cons.mpr ⟨rfl, inner.1⟩, fun other => ?_⟩
      obtain ⟨rfl, follows⟩ := inner.2 other
      exact ⟨rfl, follows⟩

theorem Row.length_le (row : Row members digits rest) (all : Digits members word) (stands : word <+: digits ++ rest) :
    word.length ≤ digits.length := by
  have front : word ++ [] <+: digits ++ rest := by rwa [List.append_nil]
  exact (row.front all front).1.length_le

theorem Row.cons_front (row : Row members digits rest) (all : Digits members word) (other : ¬IsOneOf members c)
    (stands : word ++ c :: behind <+: digits ++ rest) : word = digits ∧ c :: behind <+: rest :=
  (row.front all stands).2 ⟨c, rfl, other⟩

theorem exists_row (bytes : Bytes text) (members : List Char) :
    ∃ digits rest, text = digits ++ rest ∧ Row members digits rest ∧ run members text = (digits.length, rest) := by
  induction text with
  | nil => exact ⟨[], [], rfl, ⟨nofun, nofun⟩, rfl⟩
  | cons c text ih =>
    obtain ⟨byte, bytes⟩ := Bytes.cons_iff.mp bytes
    have digit : isAmong members c = true ↔ IsOneOf members c := isAmong_iff byte
    -- A digit belongs to the row, and anything else ends it.
    by_cases member : IsOneOf members c
    · obtain ⟨digits, rest, rfl, row, read⟩ := ih bytes
      refine ⟨c :: digits, rest, rfl, ⟨List.forall_mem_cons.mpr ⟨member, row.all⟩, row.ends⟩, ?_⟩
      rw [run, if_pos (digit.mpr member), read]
      rfl
    · refine ⟨[], c :: text, rfl, ⟨nofun, fun d heads => Option.some.inj heads ▸ member⟩, ?_⟩
      rw [run, if_neg (mt digit.mp member), if_neg (show c ≠ nul from Nat.ne_of_gt byte.1)]
      rfl

theorem tryOne_cases (bytes : Bytes text) (members : List Char) :
    (∃ c rest, text = c :: rest ∧ IsOneOf members c ∧ tryOne members text = (true, rest)) ∨
      ((∀ c ∈ text.head?, ¬IsOneOf members c) ∧ tryOne members text = (false, text)) := by
  cases text with
  | nil => exact Or.inr ⟨nofun, rfl⟩
  | cons c rest =>
    have byte := (Bytes.cons_iff.mp bytes).1
    have found : isAmong members c = true ↔ IsOneOf members c := isAmong_iff byte
    by_cases member : IsOneOf members c
    · exact Or.inl ⟨c, rest, rfl, member, by rw [tryOne, if_pos (found.mpr member)]⟩
    · refine Or.inr ⟨fun d heads => Option.some.inj heads ▸ member, ?_⟩
      rw [tryOne, if_neg (mt found.mp member), if_neg (show c ≠ nul from Nat.ne_of_gt byte.1)]

/-! ### Exponents -/

/-- How far the reader takes an exponent behind its letter. -/
def powerLength (text : List CodePoint) : Nat :=
  let behindSign := (tryOne ['+', '-'] text).2
  let digits := (run Digit.decimal behindSign).1
  if digits = 0 then 0 else text.length - behindSign.length + digits

/-- A sign is taken whenever it stands there, so whatever sign an exponent has in front of its digits is the one taken. -/
theorem exists_sign (bytes : Bytes text) : ∃ sign behind, text = sign ++ behind ∧
    (sign = [] ∨ ∃ s, IsOneOf ['+', '-'] s ∧ sign = [s]) ∧
    (∀ other digits, (other = [] ∨ ∃ s, IsOneOf ['+', '-'] s ∧ other = [s]) → digits ≠ [] →
      Digits Digit.decimal digits → other ++ digits <+: text → other = sign ∧ digits <+: behind) ∧
    (tryOne ['+', '-'] text).2 = behind := by
  rcases tryOne_cases bytes ['+', '-'] with ⟨s, behind, rfl, mark, read⟩ | ⟨none, read⟩
  · refine ⟨[s], behind, rfl, Or.inr ⟨s, mark, rfl⟩, ?_, by rw [read]⟩
    rintro other digits (rfl | ⟨t, _, rfl⟩) some all stands
    · -- Without its sign an exponent would start with a digit there.
      cases digits with
      | nil => exact absurd rfl some
      | cons d digits =>
        obtain ⟨rfl, _⟩ := List.cons_prefix_cons.mp stands
        exact absurd (all d (List.mem_cons_self ..)) (not_decimal (by decide) mark)
    · obtain ⟨rfl, others⟩ := List.cons_prefix_cons.mp stands
      exact ⟨rfl, others⟩
  · refine ⟨[], text, rfl, Or.inl rfl, ?_, by rw [read]⟩
    rintro other digits (rfl | ⟨t, mark, rfl⟩) some all stands
    · exact ⟨rfl, stands⟩
    · obtain ⟨others, rfl⟩ := stands
      exact absurd mark (none t rfl)

/-- Behind its letter an exponent is read as far as it goes. -/
theorem exists_longest_power (bytes : Bytes rest) (kind : IsOneOf ['e', 'E'] c) :
    ∃ word, Longest IsExponent (c :: rest) word ∧ word.length = 1 + powerLength rest := by
  obtain ⟨sign, behind, rfl, signed, only, read⟩ := exists_sign bytes
  obtain ⟨digits, after, rfl, row, count⟩ := exists_row (Bytes.append_iff.mp bytes).2 Digit.decimal
  have length : powerLength (sign ++ (digits ++ after)) = if digits = [] then 0 else sign.length + digits.length := by
    simp only [powerLength, read, count, List.length_eq_zero_iff, List.length_append, Nat.add_sub_cancel]
  rw [length]
  by_cases none : digits = []
  · -- Without digits the sign does not belong to the exponent, and no other exponent has digits either.
    subst none
    refine ⟨[c], ⟨⟨_, rfl⟩, .bare kind, fun other stands power => ?_⟩, rfl⟩
    cases power with
    | bare => exact Nat.le_refl 1
    | power _ signed some all =>
      obtain ⟨_, others⟩ := only _ _ signed some all (List.cons_prefix_cons.mp stands).2
      have few := row.length_le all others
      exact absurd (List.length_eq_zero_iff.mp (Nat.le_zero.mp few)) some
  · refine ⟨c :: (sign ++ digits), ⟨?_, .power kind signed none row.all, fun other stands power => ?_⟩, ?_⟩
    · rw [← List.append_assoc]
      exact ⟨after, rfl⟩
    · cases power with
      | bare => simp
      | power _ signed some all =>
        obtain ⟨rfl, others⟩ := only _ _ signed some all (List.cons_prefix_cons.mp stands).2
        have few := row.length_le all others
        simp only [List.length_cons, List.length_append]
        omega
    · rw [if_neg none, List.length_cons, List.length_append, Nat.add_comm]

theorem power_cases (bytes : Bytes text) :
    (∃ rest word, tryOne ['e', 'E'] text = (true, rest) ∧ Longest IsExponent text word ∧
        word.length = 1 + powerLength rest) ∨
      (tryOne ['e', 'E'] text = (false, text) ∧ ∀ word, word <+: text → ¬IsExponent word) := by
  rcases tryOne_cases bytes ['e', 'E'] with ⟨letter, rest, rfl, kind, read⟩ | ⟨none, read⟩
  · obtain ⟨word, longest, length⟩ := exists_longest_power (Bytes.cons_iff.mp bytes).2 kind
    exact Or.inl ⟨rest, word, read, longest, length⟩
  · refine Or.inr ⟨read, fun word stands power => ?_⟩
    obtain ⟨letter, others, rfl, kind⟩ := power.head
    obtain ⟨behind, rfl⟩ := stands
    exact none letter rfl kind

/-! ### Fractions and exponents -/

/-- How far a fraction and an exponent are read, if there are any. -/
def tailLength? (text : List CodePoint) : Option Nat :=
  match fraction text with
  | (fractional, exponentAllowed, rest) =>
    let (exponential, behindLetter) := tryOne ['e', 'E'] rest
    if exponentAllowed ∧ exponential then some (text.length - rest.length + (1 + powerLength behindLetter))
    else if fractional then some (text.length - rest.length)
    else none

theorem fraction_cases (bytes : Bytes text) :
    (∃ digits rest, text = Char.toNat '.' :: (digits ++ rest) ∧ Row Digit.decimal digits rest ∧
        fraction text = (true, digits.length != 0, rest)) ∨
      (text.head? ≠ some (Char.toNat '.') ∧ fraction text = (false, true, text)) := by
  cases text with
  | nil => exact Or.inr ⟨nofun, rfl⟩
  | cons c rest =>
    by_cases point : c = Char.toNat '.'
    · subst point
      obtain ⟨digits, behind, rfl, row, read⟩ := exists_row (Bytes.cons_iff.mp bytes).2 Digit.decimal
      exact Or.inl ⟨digits, behind, rfl, row, by rw [fraction, if_pos rfl, read]⟩
    · exact Or.inr ⟨fun heads => point (Option.some.inj heads), by rw [fraction, if_neg point]⟩

theorem not_isExponent_point (stands : word <+: Char.toNat '.' :: rest) : ¬IsExponent word := by
  intro power
  obtain ⟨letter, others, rfl, kind⟩ := power.head
  obtain ⟨rfl, _⟩ := List.cons_prefix_cons.mp stands
  exact absurd kind (by decide)

/-- Behind a point the digits are taken, and then an exponent if there are any. -/
theorem IsTail.point_front (row : Row Digit.decimal digits rest) (tailed : IsTail word)
    (stands : word <+: Char.toNat '.' :: (digits ++ rest)) : word.length ≤ digits.length + 1 ∨
      digits ≠ [] ∧ ∃ power, IsExponent power ∧ power <+: rest ∧ word = Char.toNat '.' :: (digits ++ power) := by
  cases tailed with
  | fraction all => exact Or.inl (Nat.succ_le_succ (row.length_le all (List.cons_prefix_cons.mp stands).2))
  | exponent power => exact absurd power (not_isExponent_point stands)
  | both some all power =>
    obtain ⟨letter, others, rfl, kind⟩ := power.head
    have other := not_decimal (by decide) kind
    obtain ⟨rfl, follows⟩ := row.cons_front all other (List.cons_prefix_cons.mp stands).2
    exact Or.inr ⟨some, _, power, follows, rfl⟩

/-- Without a point only an exponent can stand there. -/
theorem IsTail.isExponent (unpointed : text.head? ≠ some (Char.toNat '.')) (tailed : IsTail word) (stands : word <+: text) :
    IsExponent word := by
  obtain ⟨behind, rfl⟩ := stands
  cases tailed with
  | fraction => exact absurd rfl unpointed
  | exponent power => exact power
  | both => exact absurd rfl unpointed

/-- A fraction is all there is behind a point without digits, and where no exponent follows. -/
theorem longest_fraction (row : Row Digit.decimal digits rest)
    (bare : digits = [] ∨ ∀ power, power <+: rest → ¬IsExponent power) :
    Longest IsTail (Char.toNat '.' :: (digits ++ rest)) (Char.toNat '.' :: digits) := by
  refine ⟨⟨rest, rfl⟩, .fraction row.all, fun other stands tailed => ?_⟩
  rcases tailed.point_front row stands with shorter | ⟨some, power, isExponent, follows, _⟩
  · exact shorter
  · rcases bare with none | none
    · exact absurd none some
    · exact absurd isExponent (none power follows)

theorem longest_fraction_power (row : Row Digit.decimal digits rest) (some : digits ≠ []) {power : List CodePoint}
    (longest : Longest IsExponent rest power) :
    Longest IsTail (Char.toNat '.' :: (digits ++ rest)) (Char.toNat '.' :: (digits ++ power)) := by
  refine ⟨?_, .both some row.all longest.fits, fun other stands tailed => ?_⟩
  · exact List.cons_prefix_cons.mpr ⟨rfl, (List.prefix_append_right_inj digits).mpr longest.stands⟩
  · simp only [List.length_cons, List.length_append]
    rcases tailed.point_front row stands with shorter | ⟨_, power', isExponent, follows, rfl⟩
    · omega
    · have le := longest.longest power' follows isExponent
      simp only [List.length_cons, List.length_append]
      omega

theorem tailLength?_longest (bytes : Bytes text) :
    (tailLength? text = none ∧ ∀ word, word <+: text → ¬IsTail word) ∨
      ∃ word, Longest IsTail text word ∧ tailLength? text = some word.length := by
  rcases fraction_cases bytes with ⟨digits, rest, rfl, row, read⟩ | ⟨unpointed, read⟩
  · right
    by_cases empty : digits = []
    · refine ⟨_, longest_fraction row (Or.inl empty), ?_⟩
      rw [tailLength?, read]
      simp [empty]
    · have length : (Char.toNat '.' :: (digits ++ rest)).length - rest.length = digits.length + 1 := by
        simp only [List.length_cons, List.length_append]
        omega
      rcases power_cases (Bytes.append_iff.mp (Bytes.cons_iff.mp bytes).2).2 with ⟨behind, power, found, longest, size⟩ |
        ⟨none, missing⟩
      · refine ⟨_, longest_fraction_power row empty longest, ?_⟩
        rw [tailLength?, read]
        dsimp only
        rw [found, length]
        simp [empty, size, Nat.add_right_comm]
      · refine ⟨_, longest_fraction row (Or.inr missing), ?_⟩
        rw [tailLength?, read]
        dsimp only
        rw [none, length]
        simp
  · -- Without a point what is read is an exponent, or nothing.
    rcases power_cases bytes with ⟨rest, word, found, longest, length⟩ | ⟨none, missing⟩
    · refine Or.inr ⟨word, ⟨longest.stands, .exponent longest.fits, fun other stands tailed => ?_⟩, ?_⟩
      · exact longest.longest other stands (tailed.isExponent unpointed stands)
      · simp [tailLength?, read, found, length]
    · refine Or.inl ⟨?_, fun word stands tailed => missing word stands (tailed.isExponent unpointed stands)⟩
      simp [tailLength?, read, none]

/-! ### Numerals -/

/-- A radix is told exactly if its mark stands behind a zero. -/
theorem radix_cases (bytes : Bytes text) (first : CodePoint) :
    (first = Char.toNat '0' ∧ ∃ mark members rest, (mark, members) ∈ radixMarks ∧ text = Char.toNat mark :: rest ∧
        radix first text = (some members, rest)) ∨
      ((first = Char.toNat '0' → ∀ kind ∈ radixMarks, text.head? ≠ some (Char.toNat kind.1)) ∧
        radix first text = (none, text)) := by
  by_cases zero : first = Char.toNat '0'
  · have listed : (∀ mark ∈ ['b', 'B'], (mark, Digit.binary) ∈ radixMarks) ∧
        (∀ mark ∈ ['o', 'O'], (mark, Digit.octal) ∈ radixMarks) ∧ ∀ mark ∈ ['x', 'X'], (mark, Digit.hex) ∈ radixMarks := by
      simp [radixMarks]
    obtain ⟨binary, octal, hex⟩ := listed
    rw [radix, if_pos zero]
    -- The marks are tried one after the other, each on what the one before it has left.
    rcases tryOne_cases bytes ['b', 'B'] with ⟨c, rest, rfl, ⟨mark, member, rfl⟩, read⟩ | ⟨notBinary, read⟩
    · exact Or.inl ⟨zero, mark, Digit.binary, rest, binary mark member, rfl, by rw [read]; rfl⟩
    rw [read]
    dsimp only
    rw [if_neg Bool.false_ne_true]
    rcases tryOne_cases bytes ['o', 'O'] with ⟨c, rest, rfl, ⟨mark, member, rfl⟩, read⟩ | ⟨notOctal, read⟩
    · exact Or.inl ⟨zero, mark, Digit.octal, rest, octal mark member, rfl, by rw [read]; rfl⟩
    rw [read]
    dsimp only
    rw [if_neg Bool.false_ne_true]
    rcases tryOne_cases bytes ['x', 'X'] with ⟨c, rest, rfl, ⟨mark, member, rfl⟩, read⟩ | ⟨notHex, read⟩
    · exact Or.inl ⟨zero, mark, Digit.hex, rest, hex mark member, rfl, by rw [read]; rfl⟩
    rw [read]
    refine Or.inr ⟨fun _ kind member heads => ?_, rfl⟩
    have one : ∀ kind ∈ radixMarks, IsOneOf ['b', 'B'] kind.1.toNat ∨ IsOneOf ['o', 'O'] kind.1.toNat ∨
        IsOneOf ['x', 'X'] kind.1.toNat := by decide
    rcases one kind member with binary | octal | hex
    · exact notBinary _ heads binary
    · exact notOctal _ heads octal
    · exact notHex _ heads hex
  · exact Or.inr ⟨fun same => absurd same zero, by rw [radix, if_neg zero]⟩

theorem ofDigits_decimal (bytes : Bytes rest) (unmarked : radix first (digits ++ rest) = (none, digits ++ rest))
    (read : run Digit.decimal (digits ++ rest) = (digits.length, rest)) :
    (ofDigits first (digits ++ rest)).double = (tailLength? rest).isSome ∧
      (ofDigits first (digits ++ rest)).stop = digits.length + (tailLength? rest).getD 0 := by
  rw [ofDigits, unmarked]
  dsimp only
  rw [read, tailLength?]
  -- What the fraction has told decides whether an exponent is looked for, and where.
  obtain ⟨fractional, exponentAllowed, behind, parted, suffix, unpointed⟩ : ∃ fractional exponentAllowed behind,
      fraction rest = (fractional, exponentAllowed, behind) ∧ behind <:+ rest ∧
        (fractional = false → behind = rest ∧ exponentAllowed = true) := by
    rcases fraction_cases bytes with ⟨part, behind, rfl, _, parted⟩ | ⟨_, parted⟩
    · exact ⟨_, _, _, parted, ⟨Char.toNat '.' :: part, rfl⟩, nofun⟩
    · exact ⟨_, _, _, parted, List.suffix_refl _, fun _ => ⟨rfl, rfl⟩⟩
  obtain ⟨front, rfl⟩ := suffix
  rw [parted]
  rcases tryOne_cases (Bytes.append_iff.mp bytes).2 ['e', 'E'] with ⟨letter, others, rfl, _, found⟩ | ⟨_, none⟩
  · have sign := (tryOne_suffix ['+', '-'] others).length_le
    simp only [found, powerLength, List.length_append, List.length_cons]
    cases exponentAllowed with
    | true =>
      simp
      split_ifs <;> omega
    | false =>
      cases fractional with
      | false => exact absurd (unpointed rfl).2 Bool.false_ne_true
      | true =>
        simp
        omega
  · simp only [none, List.length_append]
    cases fractional with
    | false =>
      obtain ⟨same, rfl⟩ := unpointed rfl
      simp at same
      simp [same]
    | true =>
      simp
      omega

/-- The mark of a radix is no digit, and starts no fraction or exponent. -/
theorem radixMark_apart {kind : Char × List Char} (member : kind ∈ radixMarks) :
    ¬IsOneOf Digit.decimal (Char.toNat kind.1) ∧ ¬IsOneOf ['.', 'e', 'E'] (Char.toNat kind.1) := by
  have apart : ∀ kind ∈ radixMarks, ¬IsOneOf Digit.decimal (Char.toNat kind.1) ∧
      ¬IsOneOf ['.', 'e', 'E'] (Char.toNat kind.1) := by decide
  exact apart kind member

theorem IsDouble.front (row : Row Digit.decimal digits rest) (double : IsDouble word) (stands : word <+: digits ++ rest) :
    ∃ tail, IsTail tail ∧ tail <+: rest ∧ word = digits ++ tail := by
  cases double with
  | tailed _ all tailed =>
    obtain ⟨c, others, rfl, mark⟩ := tailed.head
    obtain ⟨rfl, follows⟩ := row.cons_front all (not_decimal_tail mark) stands
    exact ⟨_, tailed, follows, rfl⟩

/-- A zero before the mark of a radix is a row of its own. -/
theorem row_zero {kind : Char × List Char} (member : kind ∈ radixMarks) :
    Row Digit.decimal [Char.toNat '0'] (Char.toNat kind.1 :: rest) := by
  refine ⟨fun c zero => ?_, fun c heads => Option.some.inj heads ▸ (radixMark_apart member).1⟩
  rw [List.mem_singleton.mp zero]
  decide

theorem not_isDouble_radix {kind : Char × List Char} (member : kind ∈ radixMarks)
    (stands : word <+: Char.toNat '0' :: Char.toNat kind.1 :: rest) : ¬IsDouble word := by
  intro double
  obtain ⟨tail, tailed, follows, rfl⟩ := double.front (row_zero member) stands
  obtain ⟨c, others, rfl, mark⟩ := tailed.head
  obtain ⟨rfl, _⟩ := List.cons_prefix_cons.mp follows
  exact (radixMark_apart member).2 mark

theorem IsNumber.not_isDouble (number : IsNumber word) : ¬IsDouble word := by
  cases number with
  | radix kind => exact not_isDouble_radix kind (List.prefix_refl _)
  | decimal _ all =>
    intro double
    have row : Row Digit.decimal word [] := ⟨all, nofun⟩
    have whole : word <+: word ++ [] := List.prefix_append word []
    obtain ⟨tail, tailed, follows, _⟩ := double.front row whole
    obtain ⟨c, others, rfl, _⟩ := tailed.head
    exact absurd follows (by simp)

/-- With a radix the longest numeral is the mark with all digits behind it. -/
theorem longest_radix {mark : Char} (kind : (mark, members) ∈ radixMarks) (row : Row members digits rest) :
    Longest (fun w => IsNumber w ∨ IsDouble w) (Char.toNat '0' :: Char.toNat mark :: (digits ++ rest))
      (Char.toNat '0' :: Char.toNat mark :: digits) := by
  refine ⟨⟨rest, rfl⟩, Or.inl (.radix kind row.all), fun other stands words => ?_⟩
  rcases words with number | double
  · cases number with
    | radix otherKind all =>
      have unique : ∀ a ∈ radixMarks, ∀ b ∈ radixMarks, a.1.toNat = b.1.toNat → a.2 = b.2 := by decide
      obtain ⟨_, follows⟩ := List.cons_prefix_cons.mp stands
      obtain ⟨same, follows⟩ := List.cons_prefix_cons.mp follows
      obtain rfl := unique _ otherKind _ kind same
      exact Nat.succ_le_succ (Nat.succ_le_succ (row.length_le all follows))
    | decimal _ all => exact Nat.le_succ_of_le ((row_zero kind).length_le all stands |>.trans (by simp))
  · exact absurd double (not_isDouble_radix kind stands)

/-- Without one it is the row of digits with the longest fraction and exponent behind it. -/
theorem longest_decimal (some : digits ≠ []) (row : Row Digit.decimal digits rest)
    (unmarked : ∀ kind ∈ radixMarks, ¬[Char.toNat '0', Char.toNat kind.1] <+: digits ++ rest) {tail : List CodePoint}
    (tailed : tail = [] ∧ (∀ other, other <+: rest → ¬IsTail other) ∨ Longest IsTail rest tail) :
    Longest (fun w => IsNumber w ∨ IsDouble w) (digits ++ rest) (digits ++ tail) := by
  have stands : tail <+: rest := by
    rcases tailed with ⟨rfl, _⟩ | longest
    · exact List.nil_prefix
    · exact longest.stands
  refine ⟨(List.prefix_append_right_inj digits).mpr stands, ?_, fun other front words => ?_⟩
  · rcases tailed with ⟨rfl, _⟩ | longest
    · rw [List.append_nil]
      exact Or.inl (.decimal some row.all)
    · exact Or.inr (.tailed some row.all longest.fits)
  · rw [List.length_append]
    -- A numeral with a radix would begin with its mark, and of a double only the tail can be longer.
    rcases words with number | double
    · cases number with
      | radix kind =>
        exact absurd ((List.prefix_append [_, _] _).trans front) (unmarked _ kind)
      | decimal _ all => exact Nat.le_add_right_of_le (row.length_le all front)
    · obtain ⟨otherTail, otherTailed, follows, rfl⟩ := double.front row front
      rw [List.length_append]
      rcases tailed with ⟨_, none⟩ | longest
      · exact absurd otherTailed (none _ follows)
      · exact Nat.add_le_add_left (longest.longest _ follows otherTailed) _

theorem ofDigits_longest (bytes : Bytes (first :: text)) (digit : IsOneOf Digit.decimal first) :
    ∃ word, Longest (fun w => IsNumber w ∨ IsDouble w) (first :: text) word ∧ (ofDigits first text).stop + 1 = word.length ∧
      if (ofDigits first text).double = true then IsDouble word else IsNumber word := by
  obtain ⟨byte, others⟩ := Bytes.cons_iff.mp bytes
  rcases radix_cases others first with ⟨rfl, mark, members, behind, kind, rfl, marked⟩ | ⟨unmarked, none⟩
  · obtain ⟨digits, rest, rfl, row, read⟩ := exists_row (Bytes.cons_iff.mp others).2 members
    refine ⟨_, longest_radix kind row, ?_, ?_⟩
    · rw [ofDigits, marked]
      dsimp only
      rw [read]
      simp only [List.length_cons, List.length_append]
      omega
    · rw [ofDigits, marked]
      exact .radix kind row.all
  · obtain ⟨digits, rest, rfl, row, read⟩ := exists_row others Digit.decimal
    have bytesBehind := (Bytes.append_iff.mp others).2
    have whole : Row Digit.decimal (first :: digits) rest := ⟨List.forall_mem_cons.mpr ⟨digit, row.all⟩, row.ends⟩
    -- No radix was told, so no word with the mark of one stands there either.
    have apart : ∀ kind ∈ radixMarks, ¬[Char.toNat '0', Char.toNat kind.1] <+: first :: digits ++ rest := by
      intro kind member stands
      obtain ⟨zero, follows⟩ := List.cons_prefix_cons.mp stands
      obtain ⟨behind, same⟩ := (follows : [Char.toNat kind.1] <+: digits ++ rest)
      exact unmarked zero.symm kind member (congrArg List.head? same).symm
    obtain ⟨double, stop⟩ := ofDigits_decimal bytesBehind none read
    rw [double, stop]
    rcases tailLength?_longest bytesBehind with ⟨untailed, missing⟩ | ⟨tail, longest, tailed⟩
    · refine ⟨first :: digits ++ [], longest_decimal (List.cons_ne_nil _ _) whole apart (Or.inl ⟨rfl, missing⟩), ?_, ?_⟩
      · simp [untailed]
      · rw [untailed, List.append_nil]
        exact .decimal (List.cons_ne_nil _ _) whole.all
    · refine ⟨first :: digits ++ tail, longest_decimal (List.cons_ne_nil _ _) whole apart (Or.inr longest), ?_, ?_⟩
      · simp only [tailed, Option.getD_some, List.length_append, List.length_cons, Nat.add_right_comm]
      · rw [tailed]
        exact .tailed (List.cons_ne_nil _ _) whole.all longest.fits

end Numeral

namespace Context

open Numeral CodePoint

variable {accepts : Token → Bool} {c : Context} {first : CodePoint} {rest : List CodePoint}

/-- A digit is neither blank nor the start of any other token. -/
theorem scan_digit (mode : c.mode = .code) (digit : IsOneOf Digit.decimal first) :
    c.scan accepts (first :: rest) = (Scan.mk c (some (if (ofDigits first rest).double then .double else .number)) 0
      ((ofDigits first rest).stop + 1) ((ofDigits first rest).read + 1)).accept accepts := by
  -- A digit is told apart from everything else that code is read by.
  have apart : ∀ m ∈ Digit.decimal.map Char.toNat, isBlank m = false ∧ m ≠ nul ∧
      isAmong ['"', '\'', '\x60'] m = false ∧ isAmong Digit.decimal m = true ∧
      ∀ other ∈ [';', '-', '%', '}', '{', '/'].map Char.toNat, m ≠ other := by decide
  obtain ⟨m, member, rfl⟩ := digit
  obtain ⟨unblank, proper, unquoted, digit, others⟩ := apart _ (List.mem_map_of_mem member)
  simp only [List.map_cons, List.forall_mem_cons, List.map_nil, List.not_mem_nil] at others
  obtain ⟨semicolon, minus, percent, close, opening, slash, _⟩ := others
  have begun : c.start accepts = c := start_of_begun (by simp [mode]) accepts
  have code : c.scanAny (Char.toNat m :: rest) = Scan.mk c
      (some (if (ofDigits (Char.toNat m) rest).double then .double else .number)) 0
      ((ofDigits (Char.toNat m) rest).stop + 1) ((ofDigits (Char.toNat m) rest).read + 1) := by
    rw [scanAny, mode]
    dsimp only
    rw [List.dropWhile_cons_of_neg (by simp [unblank]), Nat.sub_self]
    simp only [scanCode, proper, minus, percent, close, opening, unquoted, slash, digit, if_false, if_true, Scan.behind,
      Nat.add_zero, Bool.false_eq_true]
  rw [Context.scan, begun]
  dsimp only
  rw [List.dropWhile_cons_of_neg (by simp [unblank]), Nat.sub_self, scanSemicolon, if_neg semicolon,
    if_neg (not_or.mpr ⟨close, proper⟩), code]
  split_ifs <;> rfl

/-- Where a digit stands in code, the scan finds the longest numeral, whatever else it could find, and tells of what kind
it is. -/
theorem scan_numeral (mode : c.mode = .code) (number : accepts .number = true) (double : accepts .double = true)
    (bytes : Bytes (first :: rest)) (digit : IsOneOf Digit.decimal first) :
    ∃ word, Longest (fun w => IsNumber w ∨ IsDouble w) (first :: rest) word ∧
      let s := c.scan accepts (first :: rest)
      s.start = 0 ∧ s.stop = word.length ∧ s.context = { c with semicolon := false } ∧
        (s.token = some .number ∧ IsNumber word ∧ ¬IsDouble word ∨ s.token = some .double ∧ IsDouble word ∧ ¬IsNumber word) := by
  obtain ⟨word, longest, stop, kind⟩ := ofDigits_longest bytes digit
  refine ⟨word, longest, ?_⟩
  rw [scan_digit mode digit]
  cases tells : (ofDigits first rest).double with
  | true =>
    rw [tells] at kind
    simpa [Scan.accept, double, stop] using ⟨kind, fun number => number.not_isDouble kind⟩
  | false =>
    rw [tells] at kind
    simpa [Scan.accept, number, stop] using ⟨kind, IsNumber.not_isDouble kind⟩

/-- The exponent of `1.5e+x` has no digits, so it ends behind its letter, although the sign was read. -/
theorem scan_numeral_exponent :
    let text := ['1', '.', '5', 'e', '+', 'x'].map Char.toNat
    let s := (Context.mk .code .expression false []).scan (fun t => t = .number ∨ t = .double) text
    Longest (fun w => IsNumber w ∨ IsDouble w) text (text.take 4) ∧ s.token = some .double ∧ s.stop = 4 ∧ s.read = 5 := by
  intro text s
  obtain ⟨word, longest, _, stop, _, _⟩ := @scan_numeral (fun t => t = .number ∨ t = .double)
    (Context.mk .code .expression false []) (Char.toNat '1') (text.drop 1) rfl rfl rfl (by decide) (by decide)
  have length : word.length = 4 := stop.symm
  obtain rfl : word = text.take 4 := by
    rw [← length]
    exact List.prefix_iff_eq_take.mp longest.stands
  exact ⟨longest, by decide, by decide, by decide⟩

end Context
end Ucode.Template

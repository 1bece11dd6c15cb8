import Mathlib.Data.List.TakeWhile
import Mathlib.Tactic.SplitIfs
import Ucode.Proofs.Template.Outcome

/-!
# Where a literal ends

A literal is a row of elements with a terminator behind it. `Literal.Reads` is the judgement that says so: each element is
taken as far as it goes in front of what follows it, so at every place there is only one way on. The reader
of literals finds an end exactly where a reading has one (`end?_iff`), as long as all code points of the text are
single bytes and none of them is NUL.
-/
namespace Ucode

/-- Text of single bytes, none of which is NUL. -/
def CodePoint.Bytes (text : List CodePoint) : Prop := ∀ c ∈ text, 0 < c ∧ c < 256

instance (text : List CodePoint) : Decidable (CodePoint.Bytes text) := List.decidableBAll _ text

/-- A code point that is one of some characters. -/
def CodePoint.IsOneOf (members : List Char) (c : CodePoint) : Prop := ∃ m ∈ members, c = m.toNat

instance (members : List Char) (c : CodePoint) : Decidable (CodePoint.IsOneOf members c) := List.decidableBEx _ members

namespace CodePoint

theorem Bytes.append_iff {text rest : List CodePoint} : Bytes (text ++ rest) ↔ Bytes text ∧ Bytes rest :=
  List.forall_mem_append

theorem Bytes.cons_iff {c : CodePoint} {rest : List CodePoint} : Bytes (c :: rest) ↔ (0 < c ∧ c < 256) ∧ Bytes rest :=
  List.forall_mem_cons

/-- For single bytes the low byte tells the character. -/
theorem isAmong_iff {members : List Char} {c : CodePoint} (byte : 0 < c ∧ c < 256) :
    isAmong members c = true ↔ IsOneOf members c := by
  have low : c % 256 = c := Nat.mod_eq_of_lt byte.2
  have proper : c ≠ 0 := Nat.ne_of_gt byte.1
  simp [isAmong, IsOneOf, low, proper, nul]

end CodePoint

namespace Template.Literal

open CodePoint

/-! ### Elements -/

/-- The value of a row of octal digits. -/
def octalValue (digits : List CodePoint) : Nat := digits.foldl (fun value c => value * 8 + (c - 48)) 0

/-- An escape sequence without its backslash, in front of what follows it. -/
inductive Escape : List CodePoint → List CodePoint → Prop where
  | unicode {digits rest : List CodePoint} (count : digits.length = 4) (hex : ∀ c ∈ digits, IsOneOf Digit.hex c) :
      Escape (Char.toNat 'u' :: digits) rest
  | byte {digits rest : List CodePoint} (count : digits.length = 2) (hex : ∀ c ∈ digits, IsOneOf Digit.hex c) :
      Escape (Char.toNat 'x' :: digits) rest
  /-- As many octal digits as there are, up to three. -/
  | octal {digits rest : List CodePoint} (octal : ∀ c ∈ digits, IsOneOf Digit.octal c)
      (count : 1 ≤ digits.length ∧ digits.length ≤ 3)
      (greedy : digits.length < 3 → ∀ c ∈ rest.head?, ¬IsOneOf Digit.octal c) (small : octalValue digits ≤ 255) :
      Escape digits rest
  | other {c : CodePoint} {rest : List CodePoint} (kind : c ≠ 'u' ∧ c ≠ 'x' ∧ ¬IsOneOf Digit.octal c) :
      Escape [c] rest

/-- An optional mark, which is taken if it stands there. -/
def Optionally (mark : Char) (word rest : List CodePoint) : Prop :=
  word = [mark.toNat] ∨ word = [] ∧ rest.head? ≠ some mark.toNat

/-- The members of a character class with its closing bracket, in front of what follows it. -/
inductive Members : List CodePoint → List CodePoint → Prop where
  | close {rest : List CodePoint} : Members [Char.toNat ']'] rest
  | escape {body word rest : List CodePoint} (escape : Escape body (word ++ rest)) (others : Members word rest) :
      Members (Char.toNat '\\' :: body ++ word) rest
  | plain {c : CodePoint} {word rest : List CodePoint} (kind : c ≠ ']' ∧ c ≠ '\\') (others : Members word rest) :
      Members (c :: word) rest

/-- A character class without its opening bracket, in front of what follows it. A bracket right at the start is a
member. -/
inductive Group : List CodePoint → List CodePoint → Prop where
  | listed {negation bracket members rest : List CodePoint} (negated : Optionally '^' negation (bracket ++ members ++ rest))
      (bracketed : Optionally ']' bracket (members ++ rest)) (listed : Members members rest) :
      Group (negation ++ bracket ++ members) rest

/-- An element of a literal with a delimiter, in front of what follows it. -/
inductive Element (delimiter : CodePoint) : List CodePoint → List CodePoint → Prop where
  | escape {body rest : List CodePoint} (escape : Escape body rest) : Element delimiter (Char.toNat '\\' :: body) rest
  | group {word rest : List CodePoint} (regex : delimiter = regexMark) (group : Group word rest) :
      Element delimiter (Char.toNat '[' :: word) rest
  | plain {c : CodePoint} {rest : List CodePoint} (kind : c ≠ delimiter ∧ c ≠ '\\')
      (regex : delimiter = regexMark → c ≠ '[')
      (template : delimiter = templateMark → c = '$' → rest.head? ≠ some (Char.toNat '{')) : Element delimiter [c] rest

/-- The text behind the start of a literal: the elements, one after the other, and then the delimiter, or the
mark of a placeholder. -/
inductive Reads (delimiter : CodePoint) : List (List CodePoint) → Bool → List CodePoint → Prop where
  | closed {rest : List CodePoint} : Reads delimiter [] false (delimiter :: rest)
  | placeholder {rest : List CodePoint} (template : delimiter = templateMark) :
      Reads delimiter [] true (Char.toNat '$' :: Char.toNat '{' :: rest)
  | element {word : List CodePoint} {words : List (List CodePoint)} {placeholder : Bool} {rest : List CodePoint}
      (element : Element delimiter word rest) (others : Reads delimiter words placeholder rest) :
      Reads delimiter (word :: words) placeholder (word ++ rest)

/-- What a reading ends with. -/
def terminator (delimiter : CodePoint) (placeholder : Bool) : List CodePoint :=
  if placeholder then [Char.toNat '$', Char.toNat '{'] else [delimiter]

/-- The end of a reading: behind the delimiter, or before the mark of a placeholder. -/
def endOf (words : List (List CodePoint)) (placeholder : Bool) : End :=
  ⟨words.flatten.length + (if placeholder then 0 else 1), words.flatten.length + (if placeholder then 2 else 1),
    placeholder⟩

/-! ### Escape sequences -/

section Escapes

variable {text word rest : List CodePoint} {n : Nat}

theorem isOneOf_octal_iff (c : CodePoint) : IsOneOf Digit.octal c ↔ Char.toNat '0' ≤ c ∧ c ≤ Char.toNat '7' := by
  constructor
  · have all : ∀ digit ∈ Digit.octal.map Char.toNat, Char.toNat '0' ≤ digit ∧ digit ≤ Char.toNat '7' := by decide
    rintro ⟨m, member, rfl⟩
    exact all _ (List.mem_map_of_mem member)
  · rintro ⟨low, high⟩
    have all : ∀ c < 56, Char.toNat '0' ≤ c → IsOneOf Digit.octal c := by decide
    exact all c (Nat.lt_succ_of_le high) low

theorem hexEscape_iff (digits : Nat) (bytes : Bytes text) : hexEscape digits text = some n ↔
    ∃ word rest, text = word ++ rest ∧ word.length = digits ∧ (∀ c ∈ word, IsOneOf Digit.hex c) ∧ n = digits + 1 := by
  -- The digits are told by their low bytes, which among single bytes comes to the digits themselves.
  have hex : ∀ word ⊆ text, word.all (isAmong Digit.hex) = true ↔ ∀ c ∈ word, IsOneOf Digit.hex c := by
    intro word within
    rw [List.all_eq_true]
    exact forall₂_congr fun c member => isAmong_iff (bytes c (within member))
  have unfolded : hexEscape digits text =
    if (text.take digits).length = digits ∧ (text.take digits).all (isAmong Digit.hex) = true then some (digits + 1)
    else none := rfl
  rw [unfolded]
  constructor
  · intro found
    split_ifs at found with enough
    cases found
    exact ⟨_, _, (List.take_append_drop digits text).symm, enough.1, (hex _ (List.take_subset ..)).mp enough.2, rfl⟩
  · rintro ⟨word, rest, rfl, count, all, rfl⟩
    subst count
    rw [List.take_left, if_pos ⟨rfl, (hex word (List.subset_append_left ..)).mpr all⟩]

theorem takeWhile_octal (octal : ∀ c ∈ word, IsOneOf Digit.octal c) (count : word.length ≤ 3)
    (greedy : word.length < 3 → ∀ c ∈ rest.head?, ¬IsOneOf Digit.octal c) (bytes : Bytes (word ++ rest)) :
    ((word ++ rest).take 3).takeWhile (isAmong Digit.octal) = word := by
  obtain ⟨inside, outside⟩ := Bytes.append_iff.mp bytes
  have all : ∀ c ∈ word, isAmong Digit.octal c = true := fun c member => (isAmong_iff (inside c member)).mpr (octal c member)
  rw [List.take_append, List.take_of_length_le count, List.takeWhile_append_of_pos all]
  -- Counting stops behind the word: three digits have been counted, or no digit follows.
  have stop : (rest.take (3 - word.length)).takeWhile (isAmong Digit.octal) = [] := by
    cases rest with
    | nil => simp
    | cons d others =>
      by_cases more : word.length < 3
      · have digit : isAmong Digit.octal d ≠ true := mt (isAmong_iff (outside d (by simp))).mp (greedy more d rfl)
        obtain ⟨k, room⟩ := Nat.exists_eq_add_of_lt more
        rw [show 3 - word.length = k + 1 by omega, List.take_succ_cons, List.takeWhile_cons_of_neg digit]
      · rw [show 3 - word.length = 0 by omega, List.take_zero, List.takeWhile_nil]
  rw [stop, List.append_nil]

/-- The digits that are counted are octal, at most three, and no further one could be counted. -/
theorem takeWhile_octal_greedy (bytes : Bytes text)
    (counted : (text.take 3).takeWhile (isAmong Digit.octal) = word) :
    ∃ rest, text = word ++ rest ∧ (∀ c ∈ word, IsOneOf Digit.octal c) ∧ word.length ≤ 3 ∧
      (word.length < 3 → ∀ c ∈ rest.head?, ¬IsOneOf Digit.octal c) := by
  have whole := List.takeWhile_append_dropWhile (p := isAmong Digit.octal) (l := text.take 3)
  rw [counted] at whole
  have front : word <+: text := (whole ▸ List.prefix_append _ _ : word <+: text.take 3).trans (List.take_prefix 3 text)
  obtain ⟨rest, rfl⟩ := front
  have count := congrArg List.length whole
  rw [List.length_append, List.length_take] at count
  refine ⟨rest, rfl, fun c member => ?_, by omega, fun more c next digit => ?_⟩
  · have digit : isAmong Digit.octal c = true := List.mem_takeWhile_imp (counted ▸ member)
    exact (isAmong_iff (bytes c (List.mem_append_left rest member))).mp digit
  · -- The next code point is among the first three, so it is the one at which counting has stopped.
    obtain ⟨others, rfl⟩ := List.head?_eq_some_iff.mp next
    have stop := List.head?_dropWhile_not (isAmong Digit.octal) ((word ++ c :: others).take 3)
    have stopped : ((word ++ c :: others).take 3).dropWhile (isAmong Digit.octal) = (c :: others).take (3 - word.length) := by
      have taken : (word ++ c :: others).take 3 = word ++ (c :: others).take (3 - word.length) := by
        rw [List.take_append, List.take_of_length_le (by omega)]
      exact List.append_cancel_left (whole.trans taken)
    rw [stopped, show 3 - word.length = (2 - word.length) + 1 by omega, List.take_succ_cons, List.head?_cons] at stop
    dsimp only at stop
    rw [(isAmong_iff (bytes c (by simp))).mpr digit] at stop
    cases stop

theorem octalEscape_iff (bytes : Bytes text) : octalEscape text = some n ↔
    ∃ word rest, text = word ++ rest ∧ word.length = n ∧ (∀ c ∈ word, IsOneOf Digit.octal c) ∧ word.length ≤ 3 ∧
      (word.length < 3 → ∀ c ∈ rest.head?, ¬IsOneOf Digit.octal c) ∧ octalValue word ≤ 255 := by
  -- NUL would be counted as a digit, but it does not stand among single bytes.
  have unfolded : octalEscape text =
    let found := (text.take 3).takeWhile (isAmong Digit.octal)
    if 255 < octalValue found then none
    else if found.length < 3 ∧ (text.drop found.length).head? = some nul then some (found.length + 1)
    else some found.length := rfl
  rw [unfolded]
  constructor
  · intro found
    obtain ⟨rest, split, octal, count, greedy⟩ := takeWhile_octal_greedy bytes rfl
    have behind : (text.drop ((text.take 3).takeWhile (isAmong Digit.octal)).length).head? ≠ some nul := by
      intro next
      have member := List.mem_of_mem_drop (List.mem_of_head? next)
      exact absurd (bytes _ member).1 (Nat.lt_irrefl 0)
    dsimp only at found
    rw [Option.ite_none_left_eq_some, if_neg fun both => behind both.2] at found
    exact ⟨_, rest, split, Option.some.inj found.2, octal, count, greedy, Nat.not_lt.mp found.1⟩
  · rintro ⟨word, rest, rfl, rfl, octal, count, greedy, small⟩
    have behind : rest.head? ≠ some nul := by
      intro next
      obtain ⟨others, rfl⟩ := List.head?_eq_some_iff.mp next
      exact absurd (Bytes.append_iff.mp bytes).2 (by simp [Bytes.cons_iff, nul])
    simp only [takeWhile_octal octal count greedy bytes, List.drop_left]
    rw [if_neg (Nat.not_lt.mpr small), if_neg fun both => behind both.2]

/-- The first code point of an escape sequence tells of what kind it is. -/
theorem escape_cons_iff (c : CodePoint) : Escape (c :: word) rest ↔
    (c = 'u' ∧ word.length = 4 ∧ ∀ d ∈ word, IsOneOf Digit.hex d) ∨
    (c = 'x' ∧ word.length = 2 ∧ ∀ d ∈ word, IsOneOf Digit.hex d) ∨
    (IsOneOf Digit.octal c ∧ (∀ d ∈ c :: word, IsOneOf Digit.octal d) ∧ (c :: word).length ≤ 3 ∧
      ((c :: word).length < 3 → ∀ d ∈ rest.head?, ¬IsOneOf Digit.octal d) ∧ octalValue (c :: word) ≤ 255) ∨
    ((c ≠ 'u' ∧ c ≠ 'x' ∧ ¬IsOneOf Digit.octal c) ∧ word = []) := by
  constructor
  · intro escape
    cases escape with
    | unicode count hex => exact Or.inl ⟨rfl, count, hex⟩
    | byte count hex => exact Or.inr (Or.inl ⟨rfl, count, hex⟩)
    | octal octal count greedy small =>
      exact Or.inr (Or.inr (Or.inl ⟨octal c (List.mem_cons_self ..), octal, count.2, greedy, small⟩))
    | other kind => exact Or.inr (Or.inr (Or.inr ⟨kind, rfl⟩))
  · rintro (⟨rfl, count, hex⟩ | ⟨rfl, count, hex⟩ | ⟨_, octal, count, greedy, small⟩ | ⟨kind, rfl⟩)
    · exact .unicode count hex
    · exact .byte count hex
    · exact .octal octal ⟨by simp, count⟩ greedy small
    · exact .other kind

theorem escape_unicode_iff :
    Escape (Char.toNat 'u' :: word) rest ↔ word.length = 4 ∧ ∀ d ∈ word, IsOneOf Digit.hex d := by
  have digit : ¬IsOneOf Digit.octal 117 := by decide
  rw [escape_cons_iff]
  simp [digit]

theorem escape_byte_iff :
    Escape (Char.toNat 'x' :: word) rest ↔ word.length = 2 ∧ ∀ d ∈ word, IsOneOf Digit.hex d := by
  have digit : ¬IsOneOf Digit.octal 120 := by decide
  rw [escape_cons_iff]
  simp [digit]

theorem escape_other_iff {c : CodePoint} (kind : c ≠ 'u' ∧ c ≠ 'x' ∧ ¬IsOneOf Digit.octal c) :
    Escape (c :: word) rest ↔ word = [] := by
  rw [escape_cons_iff]
  simp only [kind, false_and, false_or, ne_eq, not_false_eq_true, and_self, true_and]

theorem not_escape_nil : ¬Escape [] rest := by
  intro escape
  cases escape with
  | octal _ count => exact absurd count.1 (by simp)

theorem exists_escape_iff (c : CodePoint) :
    (∃ word behind, c :: rest = word ++ behind ∧ word.length = n ∧ Escape word behind) ↔
      ∃ word behind, rest = word ++ behind ∧ word.length + 1 = n ∧ Escape (c :: word) behind := by
  constructor
  · rintro ⟨word, behind, split, length, escape⟩
    cases word with
    | nil => exact absurd escape not_escape_nil
    | cons d word =>
      obtain ⟨rfl, rfl⟩ := List.cons.inj split
      exact ⟨word, behind, rfl, length, escape⟩
  · rintro ⟨word, behind, rfl, length, escape⟩
    exact ⟨c :: word, behind, rfl, length, escape⟩

theorem hexEscape_escape_iff (c : CodePoint) (digits : Nat) (bytes : Bytes rest)
    (kind : ∀ word behind, Escape (c :: word) behind ↔ word.length = digits ∧ ∀ d ∈ word, IsOneOf Digit.hex d) :
    hexEscape digits rest = some n ↔
      ∃ word behind, rest = word ++ behind ∧ word.length + 1 = n ∧ Escape (c :: word) behind := by
  rw [hexEscape_iff digits bytes]
  refine exists₂_congr fun word behind => and_congr_right fun _ => ?_
  rw [kind]
  constructor
  · rintro ⟨count, all, rfl⟩
    exact ⟨by rw [count], count, all⟩
  · rintro ⟨rfl, count, all⟩
    exact ⟨count, all, by rw [count]⟩

theorem octalEscape_escape_iff (c : CodePoint) (bytes : Bytes (c :: rest)) (octal : IsOneOf Digit.octal c) :
    octalEscape (c :: rest) = some n ↔
      ∃ word behind, c :: rest = word ++ behind ∧ word.length = n ∧ Escape word behind := by
  have letters : c ≠ 'u' ∧ c ≠ 'x' := by
    constructor <;> rintro rfl <;> exact absurd octal (by decide)
  rw [octalEscape_iff bytes]
  refine exists₂_congr fun word behind => and_congr_right fun split => and_congr_right fun _ => ?_
  cases word with
  | nil =>
    -- At least one digit stands there, so none at all would not be greedy.
    rw [List.nil_append] at split
    subst split
    constructor
    · rintro ⟨_, _, greedy, _⟩
      exact absurd octal (greedy (by simp) c rfl)
    · intro escape
      exact absurd escape not_escape_nil
  | cons d word =>
    obtain ⟨rfl, rfl⟩ := List.cons.inj split
    rw [escape_cons_iff]
    simp only [letters.1, letters.2, octal, true_and, false_and, false_or, not_true_eq_false, and_false, or_false]

/-- The length of an escape sequence is that of the only one that stands there. -/
theorem escapeLength_iff (bytes : Bytes text) : escapeLength text = some n ↔
    ∃ word rest, text = word ++ rest ∧ word.length = n ∧ Escape word rest := by
  cases text with
  | nil =>
    constructor
    · intro found
      cases found
    · rintro ⟨word, rest, split, _, escape⟩
      obtain ⟨rfl, rfl⟩ := List.nil_eq_append_iff.mp split
      exact absurd escape not_escape_nil
  | cons c rest =>
    obtain ⟨byte, others⟩ := Bytes.cons_iff.mp bytes
    rw [escapeLength]
    -- The first code point decides, so there is one case for each kind of escape sequence.
    split_ifs with unicode hex octal null
    · subst unicode
      rw [exists_escape_iff]
      exact hexEscape_escape_iff _ 4 others fun word behind => escape_unicode_iff
    · subst hex
      rw [exists_escape_iff]
      exact hexEscape_escape_iff _ 2 others fun word behind => escape_byte_iff
    · exact octalEscape_escape_iff c bytes ((isOneOf_octal_iff c).mpr octal)
    · exact absurd byte.1 (by rw [null]; exact Nat.lt_irrefl 0)
    · -- Any other character is an escape sequence by itself.
      rw [exists_escape_iff]
      simp only [escape_other_iff ⟨unicode, hex, mt (isOneOf_octal_iff c).mp octal⟩]
      constructor
      · intro found
        cases found
        exact ⟨[], rest, rfl, rfl, rfl⟩
      · rintro ⟨word, behind, _, rfl, rfl⟩
        rfl

end Escapes

/-! ### Character classes -/

section Groups

variable {text word rest : List CodePoint} {n : Nat}

theorem classRest_append (word rest : List CodePoint) :
    classRest word.length (word ++ rest) = (classRest 0 rest).map (· + word.length) := by
  induction word with
  | nil => simp
  | cons c word ih =>
    rw [List.length_cons, List.cons_append, classRest, ih, Option.map_map]
    rfl

theorem Members.classRest_eq (members : Members word rest) (bytes : Bytes (word ++ rest)) :
    classRest 0 (word ++ rest) = some word.length := by
  induction members with
  | close => simp [classRest, nul]
  | @escape body word rest escape others ih =>
    -- The length of the escape sequence is owed, and what is owed is passed over.
    simp only [List.cons_append, List.append_assoc] at bytes ⊢
    have inside := (Bytes.cons_iff.mp bytes).2
    have length := (escapeLength_iff inside).mpr ⟨body, word ++ rest, rfl, rfl, escape⟩
    rw [classRest, if_neg (by decide), if_pos rfl, length]
    dsimp only
    rw [classRest_append, ih (Bytes.append_iff.mp inside).2]
    simp [Nat.add_comm]
  | @plain c word rest kind others ih =>
    obtain ⟨byte, inside⟩ := Bytes.cons_iff.mp bytes
    have proper : c ≠ nul := Nat.ne_of_gt byte.1
    rw [List.cons_append, classRest, if_neg proper, if_neg kind.2, if_neg kind.1, ih inside]
    rfl

theorem exists_members (owed : Nat) (bytes : Bytes text) (found : classRest owed text = some n) :
    ∃ word rest, text.drop owed = word ++ rest ∧ owed + word.length = n ∧ Members word rest := by
  -- What is owed belongs to an escape sequence that was counted before, so only what follows it is read as members.
  fun_induction classRest owed text generalizing n with
  | case1 => cases found
  | case2 owed c rest ih =>
    obtain ⟨k, inner, rfl⟩ := Option.map_eq_some_iff.mp found
    obtain ⟨word, behind, split, rfl, members⟩ := ih (Bytes.cons_iff.mp bytes).2 inner
    exact ⟨word, behind, split, Nat.succ_add .., members⟩
  | case3 => cases found
  | case4 => cases found
  | case5 rest m escapes notNul ih =>
    -- The sequence that is passed over is the one that stands there.
    obtain ⟨k, inner, rfl⟩ := Option.map_eq_some_iff.mp found
    have inside := (Bytes.cons_iff.mp bytes).2
    obtain ⟨body, others, rfl, rfl, escape⟩ := (escapeLength_iff inside).mp escapes
    obtain ⟨word, behind, split, rfl, members⟩ := ih inside inner
    rw [List.drop_left] at split
    subst split
    refine ⟨_, behind, by simp, ?_, .escape escape members⟩
    simp only [List.length_cons, List.length_append]
    omega
  | case6 rest =>
    cases found
    exact ⟨_, rest, rfl, rfl, .close⟩
  | case7 c rest _ escape bracket ih =>
    obtain ⟨k, inner, rfl⟩ := Option.map_eq_some_iff.mp found
    obtain ⟨word, behind, split, rfl, members⟩ := ih (Bytes.cons_iff.mp bytes).2 inner
    rw [List.drop_zero] at split
    subst split
    exact ⟨_, behind, rfl, by simp, .plain ⟨bracket, escape⟩ members⟩

theorem exists_optionally (mark : Char) (text : List CodePoint) :
    ∃ word rest, text = word ++ rest ∧ Optionally mark word rest := by
  by_cases here : text.head? = some mark.toNat
  · obtain ⟨rest, rfl⟩ := List.head?_eq_some_iff.mp here
    exact ⟨[mark.toNat], rest, rfl, Or.inl rfl⟩
  · exact ⟨[], text, rfl, Or.inr ⟨rfl, here⟩⟩

theorem Optionally.length_eq {mark : Char} (optionally : Optionally mark word rest) :
    (if (word ++ rest).head? = some mark.toNat then 1 else 0) = word.length := by
  rcases optionally with rfl | ⟨rfl, none⟩
  · simp
  · simp [none]

/-- The marks at the start of a class belong to it whatever they are. -/
theorem classLength_append {negation bracket : List CodePoint} (negated : Optionally '^' negation (bracket ++ rest))
    (bracketed : Optionally ']' bracket rest) : classLength (negation ++ bracket ++ rest) =
      (classRest 0 rest).map (· + (negation ++ bracket).length) := by
  have unfolded : ∀ text, classLength text =
    let negation := if text.head? = some (Char.toNat '^') then 1 else 0
    classRest (negation + if (text.drop negation).head? = some (Char.toNat ']') then 1 else 0) text := fun _ => rfl
  rw [unfolded, List.append_assoc, negated.length_eq]
  dsimp only
  rw [List.drop_left, bracketed.length_eq, ← List.length_append, ← List.append_assoc, classRest_append]

theorem classLength_iff (bytes : Bytes text) : classLength text = some n ↔
    ∃ word rest, text = word ++ rest ∧ word.length = n ∧ Group word rest := by
  constructor
  · intro found
    -- The two marks are taken off first; what is left are members.
    obtain ⟨negation, afterNegation, rfl, negated⟩ := exists_optionally '^' text
    obtain ⟨bracket, inside, rfl, bracketed⟩ := exists_optionally ']' afterNegation
    rw [← List.append_assoc] at found bytes ⊢
    rw [classLength_append negated bracketed] at found
    obtain ⟨k, inner, rfl⟩ := Option.map_eq_some_iff.mp found
    obtain ⟨word, rest, rfl, rfl, members⟩ := exists_members 0 (Bytes.append_iff.mp bytes).2 inner
    refine ⟨negation ++ bracket ++ word, rest, by simp, by simp; omega, .listed ?_ bracketed members⟩
    rwa [List.append_assoc]
  · rintro ⟨_, rest, rfl, rfl, @⟨negation, bracket, members, _, negated, bracketed, listed⟩⟩
    rw [List.append_assoc] at negated bytes ⊢
    rw [classLength_append negated bracketed, listed.classRest_eq (Bytes.append_iff.mp bytes).2]
    simp only [Option.map_some, List.length_append, Option.some.injEq]
    omega

end Groups

/-! ### Rows of elements -/

section Rows

variable {delimiter : CodePoint} {words : List (List CodePoint)} {placeholder : Bool} {text : List CodePoint} {e : End}

/-- An end seen from so many code points before. -/
def End.later (n : Nat) (e : End) : End := ⟨e.stop + n, e.read + n, e.placeholder⟩

theorem endOf_cons (word : List CodePoint) : endOf (word :: words) placeholder = (endOf words placeholder).later word.length := by
  simp only [endOf, End.later, List.flatten_cons, List.length_append, End.mk.injEq, and_true]
  omega

theorem endFrom_append (word rest : List CodePoint) :
    endFrom delimiter word.length (word ++ rest) = (endFrom delimiter 0 rest).map (End.later word.length) := by
  induction word with
  | nil => cases h : endFrom delimiter 0 rest <;> simp [h, End.later]
  | cons c word ih =>
    rw [List.length_cons, List.cons_append, endFrom, ih, Option.map_map]
    rfl

/-- The marks that literals are delimited by, with the kinds of these. -/
def kinds : List (CodePoint × Token) :=
  [(Char.toNat '"', .string), (Char.toNat '\'', .string), (templateMark, .template), (regexMark, .regex)]

theorem Element.endFrom_eq {word rest : List CodePoint} (element : Element delimiter word rest)
    (bytes : Bytes (word ++ rest)) :
    endFrom delimiter 0 (word ++ rest) = (endFrom delimiter 0 rest).map (End.later word.length) := by
  -- The reader recognizes each kind of element by its first code point, and no other branch applies.
  cases element with
  | @escape body _ escape =>
    rw [List.cons_append] at bytes ⊢
    have length := (escapeLength_iff (Bytes.cons_iff.mp bytes).2).mpr ⟨body, rest, rfl, rfl, escape⟩
    rw [endFrom, if_neg (by decide), if_neg fun both => absurd both.2 (by decide),
      if_neg fun both => absurd both.2 (by decide), if_pos rfl, length]
    dsimp only
    rw [endFrom_append, Option.map_map]
    rfl
  | @group word _ regex group =>
    rw [List.cons_append] at bytes ⊢
    have length := (classLength_iff (Bytes.cons_iff.mp bytes).2).mpr ⟨word, rest, rfl, rfl, group⟩
    rw [endFrom, if_neg (by decide), if_neg fun both => absurd both.2 (by decide), if_pos ⟨regex, rfl⟩, length]
    dsimp only
    rw [endFrom_append, Option.map_map]
    rfl
  | @plain c _ kind regex template =>
    have proper : c ≠ nul := Nat.ne_of_gt (Bytes.cons_iff.mp bytes).1.1
    rw [List.cons_append, List.nil_append, endFrom, if_neg proper]
    split_ifs with dollar mark bracket
    · exact absurd mark (template dollar.1 dollar.2)
    · rfl
    · exact absurd bracket.2 (regex bracket.1)
    · exact absurd ‹c = _› kind.2
    · exact absurd ‹c = _› kind.1
    · rfl

theorem Reads.end?_eq {kind : Token} (known : (delimiter, kind) ∈ kinds) (reads : Reads delimiter words placeholder text)
    (bytes : Bytes text) : end? delimiter text = some (endOf words placeholder) := by
  unfold end?
  induction reads with
  | closed =>
    -- No delimiter opens an escape, and none opens what is special to its own kind.
    have delimiters : delimiter ≠ nul ∧ ¬(delimiter = templateMark ∧ delimiter = '$') ∧
        ¬(delimiter = regexMark ∧ delimiter = '[') ∧ delimiter ≠ '\\' := by
      have all : ∀ pair ∈ kinds, pair.1 ≠ nul ∧ ¬(pair.1 = templateMark ∧ pair.1 = '$') ∧
          ¬(pair.1 = regexMark ∧ pair.1 = '[') ∧ pair.1 ≠ '\\' := by decide
      exact all _ known
    obtain ⟨proper, template, regex, escape⟩ := delimiters
    rw [endFrom, if_neg proper, if_neg template, if_neg regex, if_neg escape, if_pos rfl]
    rfl
  | placeholder template =>
    rw [endFrom, if_neg (by decide), if_pos ⟨template, rfl⟩, List.head?_cons, if_pos rfl]
    rfl
  | element element others ih =>
    rw [element.endFrom_eq bytes, ih (Bytes.append_iff.mp bytes).2, endOf_cons]
    rfl

/-- The words of a reading stand at the start of the text, and the terminator behind them. -/
theorem Reads.text_eq (reads : Reads delimiter words placeholder text) :
    ∃ rest, text = words.flatten ++ terminator delimiter placeholder ++ rest := by
  induction reads with
  | closed => exact ⟨_, rfl⟩
  | placeholder => exact ⟨_, rfl⟩
  | element _ _ ih =>
    obtain ⟨rest, rfl⟩ := ih
    exact ⟨rest, by simp⟩

theorem exists_reads_element {c : CodePoint} {body others : List CodePoint}
    (element : Element delimiter (c :: body) others) (read : ∃ words placeholder,
      Reads delimiter words placeholder ((body ++ others).drop body.length) ∧ e = (endOf words placeholder).later body.length) :
    ∃ words placeholder, Reads delimiter words placeholder (c :: (body ++ others)) ∧
      e.succ = (endOf words placeholder).later 0 := by
  obtain ⟨words, placeholder, reads, rfl⟩ := read
  rw [List.drop_left] at reads
  exact ⟨_, placeholder, .element element reads, by rw [endOf_cons]; rfl⟩

/-- What an end is found behind is a row of elements. -/
theorem exists_reads (owed : Nat) (bytes : Bytes text) (found : endFrom delimiter owed text = some e) :
    ∃ words placeholder, Reads delimiter words placeholder (text.drop owed) ∧
      e = (endOf words placeholder).later owed := by
  -- Behind an element the reader goes on with nothing owed, so its words are read from there.
  fun_induction endFrom delimiter owed text generalizing e with
  | case1 => cases found
  | case2 owed c rest ih =>
    obtain ⟨inner, foundInner, rfl⟩ := Option.map_eq_some_iff.mp found
    obtain ⟨words, placeholder, reads, rfl⟩ := ih (Bytes.cons_iff.mp bytes).2 foundInner
    exact ⟨words, placeholder, reads, rfl⟩
  | case3 => cases found
  | case4 c rest _ dollar mark =>
    cases found
    obtain ⟨others, rfl⟩ := List.head?_eq_some_iff.mp mark
    obtain ⟨template, rfl⟩ := dollar
    exact ⟨[], true, .placeholder template, rfl⟩
  | case5 c rest _ dollar mark ih =>
    obtain ⟨inner, foundInner, rfl⟩ := Option.map_eq_some_iff.mp found
    obtain ⟨template, rfl⟩ := dollar
    refine exists_reads_element (.plain ?_ ?_ fun _ _ => mark) (ih (Bytes.cons_iff.mp bytes).2 foundInner)
    · rw [template]
      decide
    · intro
      decide
  | case6 => cases found
  | case7 c rest _ _ bracket n length ih =>
    obtain ⟨inner, foundInner, rfl⟩ := Option.map_eq_some_iff.mp found
    have inside := (Bytes.cons_iff.mp bytes).2
    obtain ⟨word, others, rfl, rfl, group⟩ := (classLength_iff inside).mp length
    obtain ⟨regex, rfl⟩ := bracket
    exact exists_reads_element (.group regex group) (ih inside foundInner)
  | case8 => cases found
  | case9 rest n length _ _ _ ih =>
    obtain ⟨inner, foundInner, rfl⟩ := Option.map_eq_some_iff.mp found
    have inside := (Bytes.cons_iff.mp bytes).2
    obtain ⟨word, others, rfl, rfl, escape⟩ := (escapeLength_iff inside).mp length
    exact exists_reads_element (.escape escape) (ih inside foundInner)
  | case10 rest =>
    cases found
    exact ⟨[], false, .closed, rfl⟩
  | case11 c rest _ dollar bracket escape terminator ih =>
    obtain ⟨inner, foundInner, rfl⟩ := Option.map_eq_some_iff.mp found
    refine exists_reads_element (.plain ⟨terminator, escape⟩ ?_ ?_) (ih (Bytes.cons_iff.mp bytes).2 foundInner)
    · exact fun regex here => bracket ⟨regex, here⟩
    · exact fun template here => absurd ⟨template, here⟩ dollar

/-- An end is found exactly where the text can be read as elements and a terminator, and it is the end of that reading. -/
theorem end?_iff {kind : Token} (known : (delimiter, kind) ∈ kinds) (bytes : Bytes text) : end? delimiter text = some e ↔
    ∃ words placeholder, Reads delimiter words placeholder text ∧ e = endOf words placeholder := by
  constructor
  · exact exists_reads 0 bytes
  · rintro ⟨words, placeholder, reads, rfl⟩
    exact reads.end?_eq known bytes

theorem token_kind {kind : Token} (known : (delimiter, kind) ∈ kinds) : token delimiter = kind := by
  have all : ∀ pair ∈ kinds, token pair.1 = pair.2 := by decide
  exact all _ known

end Rows

end Template.Literal

namespace Template.Context

open CodePoint Literal

/-- A literal is read exactly where its text is a row of elements with a terminator. The token then ends behind the
delimiter, or before the mark of a placeholder, which is expected next. -/
theorem scanLiteral_reads {delimiter : CodePoint} {kind : Token} {text : List CodePoint} (c : Context) (offset : Nat)
    (known : (delimiter, kind) ∈ kinds) (bytes : Bytes text) :
    ((c.scanLiteral delimiter offset text).token.isSome = true ↔
      ∃ words placeholder, Literal.Reads delimiter words placeholder text) ∧
    (∀ words placeholder, Literal.Reads delimiter words placeholder text →
      (∃ rest, text = words.flatten ++ terminator delimiter placeholder ++ rest) ∧
      c.scanLiteral delimiter offset text =
        ⟨if placeholder then { c with mode := .placeholder } else c, some kind, 0,
          offset + (endOf words placeholder).stop, offset + (endOf words placeholder).read⟩) ∧
    ((¬∃ words placeholder, Literal.Reads delimiter words placeholder text) →
      c.scanLiteral delimiter offset text = .nothing c offset) := by
  have none : (¬∃ words placeholder, Literal.Reads delimiter words placeholder text) → end? delimiter text = none := by
    intro unread
    rw [Option.eq_none_iff_forall_ne_some]
    intro e ends
    obtain ⟨words, placeholder, reads, _⟩ := (end?_iff known bytes).mp ends
    exact unread ⟨words, placeholder, reads⟩
  have some (words placeholder) (reads : Literal.Reads delimiter words placeholder text) :
      c.scanLiteral delimiter offset text =
        ⟨if placeholder then { c with mode := .placeholder } else c, some kind, 0,
          offset + (endOf words placeholder).stop, offset + (endOf words placeholder).read⟩ := by
    rw [scanLiteral_some c text delimiter offset _ ((end?_iff known bytes).mpr ⟨words, placeholder, reads, rfl⟩),
      token_kind known]
    rfl
  refine ⟨⟨fun found => ?_, ?_⟩, fun words placeholder reads => ⟨reads.text_eq, some words placeholder reads⟩, ?_⟩
  · by_contra unread
    rw [scanLiteral_none c text delimiter offset (none unread)] at found
    cases found
  · rintro ⟨words, placeholder, reads⟩
    rw [some words placeholder reads]
    rfl
  · intro unread
    exact scanLiteral_none c text delimiter offset (none unread)

/-- In the expression `/[]/]\377/g` neither the bracket nor the slash in the class ends anything. -/
theorem scanLiteral_reads_class : (regexMark, Token.regex) ∈ kinds ∧
    Bytes ("[]/]\\377/g".toList.map Char.toNat) ∧
    scanLiteral ⟨.code, .statements, false, []⟩ regexMark 1 ("[]/]\\377/g".toList.map Char.toNat) =
      ⟨⟨.code, .statements, false, []⟩, some .regex, 0, 10, 10⟩ := by
  have known : (regexMark, Token.regex) ∈ kinds := by decide
  have bytes : Bytes ("[]/]\\377/g".toList.map Char.toNat) := by decide
  have escape : Element regexMark ("\\377".toList.map Char.toNat) ("/g".toList.map Char.toNat) :=
    .escape (.octal (by decide) (by decide) (by decide) (by decide))
  have members : Members ("/]".toList.map Char.toNat) ("\\377/g".toList.map Char.toNat) :=
    .plain (by decide) .close
  have group : Element regexMark ("[]/]".toList.map Char.toNat) ("\\377/g".toList.map Char.toNat) :=
    .group rfl (@Group.listed [] [Char.toNat ']'] _ _ (Or.inr (by decide)) (Or.inl rfl) members)
  have reads := Literal.Reads.element group (.element escape (@Literal.Reads.closed regexMark [Char.toNat 'g']))
  exact ⟨known, bytes, ((scanLiteral_reads _ 1 known bytes).2.1 _ _ reads).2⟩

end Template.Context
end Ucode

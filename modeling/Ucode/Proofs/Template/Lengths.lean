import Mathlib.Tactic.SplitIfs
import Ucode.Template.Literal
import Ucode.Template.Markup
import Ucode.Template.Numeral

/-!
# How far the readers of text, numerals and literals go

Each of these readers stays inside the text that it is given, and the end it reports lies no further than it has
read. Text and comments also have something to show for themselves: text that stops before a tag leaves its opening
mark, a comment is never shorter than its closing mark, and a literal stops at its delimiter or before a
placeholder.
-/
namespace Ucode.Template

namespace Markup

theorem opener?_kind (text : List CodePoint) (tag : Mode) (found : opener? text = some tag) :
    tag = .comment ∨ tag = .expressionTag ∨ tag = .statementTag := by
  unfold opener? at found
  split at found
  · split_ifs at found
    · cases found; exact Or.inl rfl
    · cases found; exact Or.inr (Or.inl rfl)
    · cases found; exact Or.inr (Or.inr rfl)
  · cases found

theorem opener?_length (text : List CodePoint) (tag : Mode) (found : opener? text = some tag) :
    2 ≤ text.length := by
  unfold opener? at found
  split at found
  · simp
  · cases found

theorem rawText_length (text : List CodePoint) : (rawText text).1 ≤ text.length := by
  fun_induction rawText text with
  | case1 => exact Nat.le_refl _
  | case2 => exact Nat.zero_le _
  | case3 => exact Nat.zero_le _
  | case4 c rest _ _ n tag found ih =>
    rw [found] at ih
    simpa using ih

/-- Text that stops before a tag leaves the opening mark of that tag. -/
theorem opener?_rawText (text : List CodePoint) (tag : Mode) (found : (rawText text).2 = some tag) :
    opener? (text.drop (rawText text).1) = some tag := by
  fun_induction rawText text with
  | case1 => cases found
  | case2 => cases found
  | case3 c rest _ mode opens =>
    cases found
    exact opens
  | case4 c rest _ _ n mode returned ih =>
    rw [returned] at ih
    exact ih found

theorem rawText_tag_length {text : List CodePoint} {n : Nat} {tag : Mode} (raw : rawText text = (n, some tag)) :
    n + 2 ≤ text.length := by
  have mark := opener?_length _ tag (opener?_rawText text tag (by rw [raw]))
  rw [raw, List.length_drop] at mark
  dsimp only at mark
  omega

/-- A comment that is closed holds at least its closing mark. -/
theorem rawComment_length {text : List CodePoint} {n : Nat} (raw : rawComment text = (n, true)) :
    2 ≤ n ∧ n ≤ text.length := by
  -- The mark itself is two code points long, and every code point before it only adds to the length.
  fun_induction rawComment text generalizing n with
  | case1 => cases raw
  | case2 => cases raw
  | case3 c rest _ mark =>
    obtain ⟨rfl, _⟩ := Prod.mk.inj raw
    obtain ⟨_, next⟩ := mark
    cases rest with
    | nil => cases next
    | cons d others => simp
  | case4 c rest _ _ m ends returned ih =>
    cases raw
    have bounds := ih returned
    simp only [List.length_cons]
    omega

end Markup

namespace Numeral

theorem tryOne_suffix (members : List Char) (text : List CodePoint) : (tryOne members text).2 <:+ text := by
  unfold tryOne
  split
  · exact List.suffix_refl _
  · split_ifs
    · exact List.suffix_cons _ _
    · exact List.suffix_cons _ _
    · exact List.suffix_refl _

theorem run_length (members : List Char) (text : List CodePoint) :
    (run members text).1 + (run members text).2.length ≤ text.length := by
  fun_induction run members text with
  | case1 => exact Nat.le_refl _
  | case2 c rest _ n behind returned ih =>
    simp only [returned] at ih
    simp only [List.length_cons]
    omega
  | case3 => simp
  | case4 => simp

theorem radix_suffix (first : CodePoint) (text : List CodePoint) : (radix first text).2 <:+ text := by
  -- The marks are tried one after the other, each on what the one before it has left.
  have binary := tryOne_suffix ['b', 'B'] text
  have octal := (tryOne_suffix ['o', 'O'] (tryOne ['b', 'B'] text).2).trans binary
  have hex := (tryOne_suffix ['x', 'X'] (tryOne ['o', 'O'] (tryOne ['b', 'B'] text).2).2).trans octal
  unfold radix
  dsimp only
  split_ifs
  · exact binary
  · exact octal
  · exact hex
  · exact hex
  · exact List.suffix_refl _

theorem fraction_length (text : List CodePoint) : (fraction text).2.2.length ≤ text.length := by
  unfold fraction
  split
  · exact Nat.le_refl _
  · next c rest =>
    have digits := run_length Digit.decimal rest
    split_ifs
    · simp only [List.length_cons]
      omega
    · exact Nat.le_refl _

/-- A numeral ends no further than it was read, inside its text. -/
theorem ofDigits_length (first : CodePoint) (text : List CodePoint) :
    (ofDigits first text).stop ≤ (ofDigits first text).read ∧ (ofDigits first text).read ≤ text.length := by
  have marked := (radix_suffix first text).length_le
  unfold ofDigits
  dsimp only
  generalize radix first text = mark at marked ⊢
  rcases mark with ⟨_ | digits, afterMark⟩ <;> dsimp only at marked ⊢
  · -- Each part of a decimal is read behind the one before it.
    have whole := run_length Digit.decimal afterMark
    generalize (run Digit.decimal afterMark).2 = afterWhole at whole ⊢
    have fractional := fraction_length afterWhole
    generalize fraction afterWhole = part at fractional ⊢
    have letter := (tryOne_suffix ['e', 'E'] part.2.2).length_le
    generalize tryOne ['e', 'E'] part.2.2 = exponent at letter ⊢
    have sign := (tryOne_suffix ['+', '-'] exponent.2).length_le
    generalize (tryOne ['+', '-'] exponent.2).2 = afterSign at sign ⊢
    have digits := run_length Digit.decimal afterSign
    split_ifs <;> dsimp only at * <;> omega
  · exact ⟨Nat.le_refl _, Nat.sub_le _ _⟩

end Numeral

namespace Literal

/-- What a literal ends at: its delimiter, or a placeholder that it stops before. -/
inductive Ends (delimiter : CodePoint) (text : List CodePoint) : End → Prop where
  | delimiter {front rest : List CodePoint} (split : text = front ++ delimiter :: rest) :
      Ends delimiter text ⟨front.length + 1, front.length + 1, false⟩
  | placeholder {front rest : List CodePoint} (mark : delimiter = templateMark)
      (split : text = front ++ Char.toNat '$' :: Char.toNat '{' :: rest) :
      Ends delimiter text ⟨front.length, front.length + 2, true⟩

namespace Ends

variable {delimiter : CodePoint} {text : List CodePoint} {e : End}

theorem cons (c : CodePoint) (ends : Ends delimiter text e) : Ends delimiter (c :: text) e.succ := by
  cases ends with
  | @delimiter front rest split =>
    have longer : c :: text = (c :: front) ++ delimiter :: rest := by rw [split]; rfl
    exact .delimiter longer
  | @placeholder front rest mark split =>
    have longer : c :: text = (c :: front) ++ Char.toNat '$' :: Char.toNat '{' :: rest := by rw [split]; rfl
    exact .placeholder mark longer

theorem behind (c : CodePoint) (found : Option End) (inner : ∀ e, found = some e → Ends delimiter text e)
    (returned : found.map End.succ = some e) : Ends delimiter (c :: text) e := by
  obtain ⟨earlier, here, rfl⟩ := Option.map_eq_some_iff.mp returned
  exact (inner earlier here).cons c

theorem length (ends : Ends delimiter text e) : e.stop ≤ e.read ∧ e.read ≤ text.length := by
  cases ends with
  | delimiter split =>
    rw [split, List.length_append, List.length_cons]
    constructor <;> dsimp only <;> omega
  | placeholder _ split =>
    rw [split, List.length_append, List.length_cons, List.length_cons]
    constructor <;> dsimp only <;> omega

end Ends

/-- The end that is found for a literal is one. The code points that are still owed to an element are passed over
one by one, so an element never reaches behind the text. -/
theorem endFrom_ends (delimiter : CodePoint) (owed : Nat) (text : List CodePoint) (e : End)
    (found : endFrom delimiter owed text = some e) : Ends delimiter text e := by
  -- Each case that goes on has passed one code point over, so `Ends.behind` takes its end back to the start of the text.
  fun_induction endFrom delimiter owed text generalizing e with
  | case1 => cases found
  | case2 _ c _ ih => exact .behind c _ ih found
  | case3 => cases found
  | case4 c rest _ mark brace =>
    obtain ⟨templated, rfl⟩ := mark
    cases rest with
    | nil => cases brace
    | cons d others =>
      cases brace
      cases found
      have here : Char.toNat '$' :: Char.toNat '{' :: others = [] ++ Char.toNat '$' :: Char.toNat '{' :: others := rfl
      exact .placeholder templated here
  | case5 c _ _ _ _ ih => exact .behind c _ ih found
  | case6 => cases found
  | case7 c _ _ _ _ _ _ ih => exact .behind c _ ih found
  | case8 => cases found
  | case9 _ _ _ _ _ _ ih => exact .behind _ _ ih found
  | case10 rest =>
    cases found
    have here : delimiter :: rest = [] ++ delimiter :: rest := rfl
    exact .delimiter here
  | case11 c _ _ _ _ _ _ ih => exact .behind c _ ih found

end Literal
end Ucode.Template

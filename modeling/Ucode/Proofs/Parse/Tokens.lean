import Ucode.Parse.Token
import Ucode.Proofs.Code.Lexemes
import Ucode.Proofs.Parse.Proper
import Ucode.Proofs.Template.Outcome

/-!
# The tokens that can be read

No rule of the template reader is about the token `error`, so no scan finds it, whatever is accepted. All other template
tokens, all lexemes and all reserved words have symbols of their own, so each leaf that is read stands in some text, a word
stands in more than none, and only the end of the text is an extra.
-/
namespace Ucode

/-! ### Template tokens -/

namespace Template

theorem Literal.token_ne_error (delimiter : CodePoint) : Literal.token delimiter ≠ .error := by
  unfold Literal.token
  split_ifs <;> decide

theorem Context.closeBrace_ne_error (c : Context) : c.closeBrace.1 ≠ .error := by
  unfold closeBrace
  split <;> simp

namespace Context

variable {accepts : Token → Bool} {c : Context} {text : List CodePoint} {s : Scan} {t : Token}

theorem Reads.ne_error (reads : Reads c text s) (found : s.token = some t) : t ≠ .error := by
  cases reads with
  | braceClose => exact Option.some.inj found ▸ c.closeBrace_ne_error
  | literal => exact Option.some.inj found ▸ Literal.token_ne_error _
  | numeral =>
    cases found
    split_ifs <;> decide
  | _ =>
    cases found
    decide

theorem Finds.ne_error (finds : Finds accepts c text s) (found : s.token = some t) : t ≠ .error := by
  cases finds with
  | token _ _ reads => exact reads.ne_error found
  | semicolon =>
    cases found
    decide
  | emptySemicolon =>
    cases found
    decide

/-- No scan finds the token `error`. -/
theorem scan_ne_error (found : (c.scan accepts text).token = some t) : t ≠ .error :=
  (scan_finds accepts c text t found).ne_error found

end Context
end Template

/-! ### Lexemes -/

/-- The symbol is that of a token that can stand in some text. -/
def Symbol.Stands (s : Symbol) : Prop := s < tokenCount ∧ s ≠ unwritten

instance (s : Symbol) : Decidable s.Stands := inferInstanceAs (Decidable (_ ∧ _))

theorem Grammar.LexMode.symbolOf_stands {t : Template.Token} (other : t ≠ .error) :
    (symbolOf t).Stands ∧ symbolOf t ≠ Symbol.word := by
  cases t <;> first | decide | exact absurd rfl other

namespace Code

variable {mode : Mode} {text : List CodePoint}

theorem Lexeme.stands {s : Symbol} {w : List CodePoint} (lexeme : Lexeme mode s w) : s.Stands ∧ w ≠ [] := by
  cases lexeme with
  | @spelled k member =>
    have spellings : ∀ k ∈ mode.spellings, k.symbol.Stands ∧ k.text ≠ [] := by cases mode <;> decide
    exact spellings k member
  | word word =>
    obtain ⟨c, head, _⟩ := word.starts
    exact ⟨by decide, fun empty => by simp [empty] at head⟩
  | _ => exact ⟨by decide, nofun⟩

theorem stands_of_read? : ∀ r ∈ read? mode text, r.symbol.Stands ∧
    (r.symbol = Symbol.word → r.start < r.stop ∧ r.start < text.length) := by
  intro r found
  by_cases code : mode = .flags
  · subst code
    have symbol := Lexeme.symbol_of_flags found
    exact ⟨by rw [symbol]; decide, fun word => absurd (symbol.symm.trans word) (by decide)⟩
  · obtain ⟨start, ⟨_, _, symbol, _⟩ | ⟨w, longest, lexeme, stop⟩⟩ := (Lexeme.read?_eq_some_iff code text r).mp found
    · exact ⟨by rw [symbol]; decide, fun word => absurd (symbol.symm.trans word) (by decide)⟩
    -- A word is not empty and begins behind the blanks, so both its ends are in the text.
    · refine ⟨lexeme.stands.1, fun _ => ?_⟩
      have long := List.length_pos_of_ne_nil lexeme.stands.2
      have inside := longest.stands.length_le
      have whole := congrArg List.length (List.takeWhile_append_dropWhile (p := CodePoint.isBlank) (l := text))
      rw [List.length_append] at whole
      omega

theorem Keyword.stands : ∀ r ∈ Keyword.read? text, r.symbol.Stands := by
  intro r found
  obtain ⟨k, member, same⟩ := Keyword.exists_of_read? found
  have all : ∀ k ∈ Keyword.all, k.symbol.Stands := by decide
  rw [← same]
  exact all k member

end Code

/-! ### Leaves -/

namespace Parse

/-- A token that can stand in a text, where a word takes up some of it. -/
structure Sighting.Stands (sighting : Sighting) (text : List CodePoint) : Prop where
  symbol : sighting.symbol.Stands
  word : sighting.symbol = Symbol.word ∨ sighting.origin = .code true →
    sighting.start < sighting.stop ∧ sighting.start < text.length

namespace Situation

open Grammar (StateId LexMode)

variable {s : Situation} {mode : LexMode} {skipped : Nat} {reader : Template.Context} {rest text : List CodePoint}

/-- What is found is a gap, or a token that can stand in the text. -/
def Found.Stands (text : List CodePoint) : Found → Prop
  | .token sighting => sighting.Stands text
  | .gap _ => True

theorem stands_of_template? (s : Situation) (mode : LexMode) (recovering : Bool) (skipped : Nat)
    (reader : Template.Context) (rest text : List CodePoint) :
    ∀ sighting ∈ (s.template? mode recovering skipped reader rest).2, sighting.Stands text := by
  unfold template?
  dsimp only
  split_ifs
  · simp
  · split
    · simp
    · next t found =>
      split_ifs
      · simp
      · rintro sighting ⟨⟩
        obtain ⟨stands, other⟩ := LexMode.symbolOf_stands (Template.Context.scan_ne_error found)
        exact ⟨stands, fun word => absurd word (by simp [other])⟩

theorem wordSymbol_stands (length : Nat) : (s.wordSymbol length text).1.Stands := by
  have word : Symbol.Stands Symbol.word := by decide
  unfold wordSymbol
  split
  · exact word
  · next keyword begins =>
    dsimp only
    split_ifs
    · exact Code.Keyword.stands keyword begins
    · exact word

theorem stands_of_code? : ∀ sighting ∈ s.code? mode skipped rest, sighting.Stands rest := by
  intro sighting found
  unfold code? at found
  dsimp only at found
  split at found
  · cases found
  · next reading lexeme =>
    obtain ⟨stands, word⟩ := Code.stands_of_read? reading lexeme
    cases found
    by_cases named : reading.symbol = Symbol.word
    · obtain ⟨long, inside⟩ := word named
      rw [List.length_drop] at inside
      rw [if_pos named]
      exact ⟨wordSymbol_stands _, fun _ => ⟨Nat.add_lt_add_left long _, by dsimp only; omega⟩⟩
    · rw [if_neg named]
      exact ⟨stands, fun word => absurd word (by simp [named])⟩

theorem stands_of_token? (s : Situation) (mode : LexMode) (recovering : Bool) (skipped : Nat)
    (reader : Template.Context) (rest : List CodePoint) :
    ∀ sighting ∈ (s.token? mode recovering skipped reader rest).2, sighting.Stands rest := by
  have template := stands_of_template? s mode recovering skipped reader rest rest
  unfold token?
  generalize s.template? mode recovering skipped reader rest = first at template
  obtain ⟨reader', sighting⟩ := first
  cases sighting with
  | none => exact stands_of_code?
  | some _ => exact template

theorem recoverFrom_stands (fuel : Nat) (gap : Option Gap) (start : gap = none → skipped = 0) :
    (s.recoverFrom text fuel reader gap skipped).2.Stands text := by
  induction fuel generalizing reader gap skipped with
  | zero => trivial
  | succ fuel ih =>
    unfold recoverFrom
    dsimp only
    have found := stands_of_token? s (Grammar.lexMode StateId.recovery) true skipped reader (text.drop skipped)
    generalize s.token? (Grammar.lexMode StateId.recovery) true skipped reader (text.drop skipped) = first at found
    obtain ⟨reader', sighting⟩ := first
    cases sighting with
    | some sighting =>
      -- A token behind a gap is left for the next time.
      cases gap with
      | none =>
        have whole := found sighting rfl
        rw [start rfl, List.drop_zero] at whole
        exact whole
      | some gap => trivial
    | none =>
      dsimp only
      split_ifs
      · exact ih _ (nomatch ·)
      · trivial
      · exact ih _ (nomatch ·)

theorem find_stands (s : Situation) (reader : Template.Context) (text : List CodePoint) : (s.find reader text).2.Stands text := by
  unfold find
  split_ifs
  · exact recoverFrom_stands _ none fun _ => rfl
  · have found := stands_of_token? s (Grammar.lexMode s.state) false 0 reader text
    split
    · next same => exact found _ (congrArg Prod.snd same)
    · exact recoverFrom_stands _ none fun _ => rfl

theorem bytes_pos_of_ne_nil {piece : List CodePoint} (proper : piece ≠ []) : 0 < (Extent.ofText piece).bytes := by
  obtain ⟨c, others, rfl⟩ := List.exists_cons_of_ne_nil proper
  have first : 0 < c.width := by
    unfold CodePoint.width
    split_ifs <;> decide
  rw [Extent.bytes_ofText, CodePoint.widths]
  exact Nat.add_pos_left first _

theorem leafOf_proper {sighting : Sighting} (stands : sighting.Stands text) :
    (s.leafOf text sighting.symbol sighting.start sighting.stop sighting.origin).Proper where
  known := Or.inl stands.symbol.1
  written := stands.symbol.2
  word here := by
    obtain ⟨long, inside⟩ := stands.word here
    refine bytes_pos_of_ne_nil fun empty => ?_
    have length := congrArg List.length empty
    rw [List.length_take, List.length_drop, List.length_nil] at length
    omega
  finish here := beq_iff_eq.mpr here

/-- Each leaf that is read stands in some text. -/
theorem read_proper (s : Situation) (reader : Template.Context) (text : List CodePoint) : (s.read reader text).2.Proper := by
  have found := s.find_stands reader text
  unfold read
  generalize s.find reader text = result at found
  obtain ⟨reader', found'⟩ := result
  cases found' with
  | token t => exact leafOf_proper found
  | gap g =>
    exact {
      known := Or.inr rfl
      written := show Symbol.error ≠ Symbol.unwritten by decide
      word := fun here => absurd here (by simp [leafOf]; decide)
      finish := fun here => beq_iff_eq.mpr here }

end Situation
end Parse
end Ucode

import Ucode.Parse.Token
import Ucode.Proofs.Code.Lexemes
import Ucode.Proofs.Parse.Precedence

/-!
# Names and operators as lexemes

A name or an operator with a space before and behind it is read as one lexeme. A name is a word, though a reserved word may
begin it, and `as` and `from` are words wherever no import or export is read.
-/
namespace Ucode

open Parse (Situation)

/-- The token of an operator. -/
def Operator.symbol : Operator → Symbol
  | power => 73 | times => 34 | divide => 71 | remainder => 72 | plus => 69 | minus => 70 | shiftRight => 64
  | shiftLeft => 65 | less => 74 | atMost => 75 | greater => 81 | atLeast => 80 | within => 17 | equal => 76
  | identical => 77 | unequal => 78 | distinct => 79 | bitAnd => 66 | bitXor => 67 | bitOr => 68 | and => 62
  | or => 63 | coalesce => 82

section Lexemes

variable (x : Name) (o : Operator) (rest : List CodePoint)

theorem Operator.symbol_ne_word : o.symbol ≠ Symbol.word := by cases o <;> decide

theorem Operator.text_ne_nil : o.text ≠ [] := by cases o <;> decide

theorem Name.exists_cons : ∃ a others, x.text = a :: others ∧ Code.isLetter a = true ∧
    ∀ c ∈ others, Code.isWordPart c = true := by
  obtain ⟨text, word, free⟩ := x
  cases text with
  | nil => cases word
  | cons a others =>
    rw [Code.word?] at word
    split at word
    · next letter =>
      refine ⟨a, others, rfl, letter, ?_⟩
      have length : (others.takeWhile Code.isWordPart).length = others.length := by
        simp only [Code.spanLength, Option.some.injEq, List.length_cons] at word
        omega
      have all : others.takeWhile Code.isWordPart = others :=
        (List.takeWhile_prefix Code.isWordPart).eq_of_length length
      intro c member
      rw [← all] at member
      exact List.all_eq_true.mp List.all_takeWhile c member
    · cases word

theorem Name.text_ne_nil : x.text ≠ [] := by
  obtain ⟨a, others, text, _⟩ := x.exists_cons
  rw [text]
  exact List.cons_ne_nil a others

theorem Name.isWord : Code.IsWord x.text := by
  obtain ⟨a, others, text, letter, parts⟩ := x.exists_cons
  rw [text]
  exact Code.isWord_cons.mpr ⟨letter, parts⟩

theorem not_isWordPart_space : ∀ c ∈ (space ++ rest).head?, Code.isWordPart c = false := by
  rintro c ⟨⟩
  decide

theorem Name.read? : Code.read? .any (space ++ (x.text ++ (space ++ rest))) =
    some ⟨Symbol.word, space.length, space.length + x.text.length⟩ := by
  have blank : CodePoint.isBlank (Char.toNat ' ') = true := by decide
  have before : (space ++ (x.text ++ (space ++ rest))).takeWhile CodePoint.isBlank = space := by
    rw [space, List.singleton_append, List.takeWhile_cons_of_pos blank, x.isWord.takeWhile_isBlank]
  have behind : (space ++ (x.text ++ (space ++ rest))).dropWhile CodePoint.isBlank = x.text ++ (space ++ rest) := by
    rw [space, List.singleton_append, List.dropWhile_cons_of_pos blank, x.isWord.dropWhile_isBlank]
  have code : Code.Mode.any ≠ .flags := by decide
  have reads := Code.Lexeme.reads_word code _ x.isWord behind (not_isWordPart_space rest)
  rwa [before] at reads

theorem Operator.read? : Code.read? .operator (space ++ (o.text ++ (space ++ rest))) =
    some ⟨if o = .within then Symbol.word else o.symbol, space.length, space.length + o.text.length⟩ := by
  cases o <;> rfl

/-- A reserved word that is as long as the name it begins is that name. -/
theorem Name.wordSymbol (s : Situation) (noAs : Grammar.hasActions s.state 33 = false)
    (noFrom : Grammar.hasActions s.state 36 = false) :
    s.wordSymbol x.text.length (x.text ++ (space ++ rest)) =
      (Symbol.word, (Code.Keyword.read? (x.text ++ (space ++ rest))).isSome) := by
  unfold Situation.wordSymbol
  cases begun : Code.Keyword.read? (x.text ++ (space ++ rest)) with
  | none => rfl
  | some r =>
    dsimp only
    rw [if_neg]
    · rfl
    -- The reserved word would be the name itself, so it is one of the two that are reserved in imports and exports
    -- only.
    · rintro ⟨length, standing⟩
      obtain ⟨k, member, same, rfl⟩ := (Code.Keyword.reads_iff x.isWord (not_isWordPart_space rest) r).mp ⟨begun, length⟩
      have known : k.symbol = 33 ∨ k.symbol = 36 := by
        have unreserved : k ∉ Code.Keyword.reserved := fun reserved => x.free k reserved same
        have others : ∀ k ∈ Code.Keyword.all, k ∉ Code.Keyword.reserved → k.symbol = 33 ∨ k.symbol = 36 := by decide
        exact others k member unreserved
      rcases known with known | known <;> simp [known, noAs, noFrom] at standing

theorem Operator.wordSymbol_within (s : Situation) (stands : Grammar.hasActions s.state 17 = true) :
    s.wordSymbol 2 (within.text ++ (space ++ rest)) = (17, true) := by
  have begun : Code.Keyword.read? (within.text ++ (space ++ rest)) = some ⟨17, 0, 2⟩ := by
    have word : Code.IsWord within.text := ⟨by decide, by decide⟩
    exact ((Code.Keyword.reads_iff word (not_isWordPart_space rest) _).mpr ⟨⟨['i', 'n'], 17⟩, by decide, rfl, rfl⟩).1
  unfold Situation.wordSymbol
  rw [begun]
  dsimp only
  rw [if_pos ⟨rfl, stands⟩]

end Lexemes
end Ucode

import Ucode.Proofs.Template.Run

/-!
# Nesting is what the tokens say

The braces and placeholders among the tokens of a run account for the nesting that the scanner holds: folding
`Token.nest` over the tokens gives it, and no closing token ever meets a nesting that it does not fit.
-/
namespace Ucode.Template

namespace Token

/-- What a token does to the counts of open braces, the innermost placeholder first. -/
def nest (nesting : List Nat) : Token → List Nat
  | placeholderOpen => 0 :: nesting
  | placeholderClose => nesting.tail
  | braceOpen =>
    match nesting with
    | [] => []
    | depth :: outer => (depth + 1) :: outer
  | braceClose =>
    match nesting with
    | [] => []
    | depth :: outer => (depth - 1) :: outer
  | _ => nesting

/-- Whether a token can stand where the braces nest like that: a placeholder is closed when no brace is open in it, and a
brace that is closed in a placeholder is open there. -/
def Fits (nesting : List Nat) : Token → Prop
  | placeholderClose => nesting.head? = some 0
  | braceClose => nesting.head? ≠ some 0
  | _ => True

end Token

namespace Context

@[simp] theorem start_nesting (c : Context) (accepts : Token → Bool) : (c.start accepts).nesting = c.nesting := by
  unfold start
  split_ifs <;> rfl

/-- A closing brace counts as the token it is read as. -/
theorem closeBrace_nesting (c : Context) :
    c.closeBrace.1.Fits c.nesting ∧ c.closeBrace.2.nesting = c.closeBrace.1.nest c.nesting := by
  unfold closeBrace
  split
  · next none => simp [Token.Fits, Token.nest, none]
  · next outer braces => simp [Token.Fits, Token.nest, braces]
  · next depth outer braces => simp [Token.Fits, Token.nest, braces]

theorem openBrace_nesting (c : Context) : c.openBrace.nesting = Token.braceOpen.nest c.nesting := by
  unfold openBrace
  split
  · next none => simp [Token.nest, none]
  · next depth outer braces => simp [Token.nest, braces]

/-- The braces counted behind a token are those counted before it and what the token does. -/
theorem reads_nesting {c : Context} {text : List CodePoint} {s : Scan} {t : Token} (reads : Reads c text s)
    (token : s.token = some t) : t.Fits c.nesting ∧ s.context.nesting = t.nest c.nesting := by
  -- Only braces and placeholders touch the nesting; a literal that stops before a placeholder does not open it yet.
  cases reads with
  | braceClose =>
    cases token
    exact closeBrace_nesting c
  | braceOpen =>
    cases token
    exact ⟨trivial, openBrace_nesting c⟩
  | literal =>
    cases token
    unfold Literal.token
    split_ifs <;> exact ⟨trivial, rfl⟩
  | numeral =>
    cases token
    split_ifs <;> exact ⟨trivial, rfl⟩
  | _ =>
    cases token
    exact ⟨trivial, rfl⟩

theorem finds_nesting {accepts : Token → Bool} {c : Context} {text : List CodePoint} {s : Scan} {t : Token}
    (finds : Finds accepts c text s) (token : s.token = some t) :
    t.Fits c.nesting ∧ s.context.nesting = t.nest c.nesting := by
  cases finds with
  | semicolon =>
    cases token
    exact ⟨trivial, start_nesting c accepts⟩
  | emptySemicolon =>
    cases token
    exact ⟨trivial, start_nesting c accepts⟩
  | token _ _ reads =>
    have counted := reads_nesting reads token
    rwa [start_nesting] at counted

/-- From any context, the tokens of a run account for the nesting behind it. -/
theorem follow_nesting_from (c : Context) (calls : List Call) :
    Token.EachFits Token.Fits Token.nest c.nesting (c.follow calls).1 ∧
      (c.follow calls).2.nesting = (c.follow calls).1.foldl Token.nest c.nesting := by
  induction calls generalizing c with
  | nil => exact ⟨trivial, rfl⟩
  | cons call calls ih =>
    unfold follow
    dsimp only
    split
    -- A call that finds nothing is undone.
    · exact ih c
    · next t token =>
      -- What this token leaves is what the tokens behind it start from.
      obtain ⟨fits, counted⟩ := finds_nesting (scan_finds call.accepts c call.text t token) token
      obtain ⟨others, total⟩ := ih (c.scan call.accepts call.text).context
      rw [counted] at others total
      exact ⟨⟨fits, others⟩, total⟩

/-- In every run of a fresh scanner each token fits the nesting of the tokens before it, and the nesting that the
scanner holds is the one that its tokens add up to. -/
theorem follow_nesting (calls : List Call) :
    Token.EachFits Token.Fits Token.nest [] (fresh.follow calls).1 ∧
      (fresh.follow calls).2.nesting = (fresh.follow calls).1.foldl Token.nest [] :=
  follow_nesting_from fresh calls

end Context
end Ucode.Template

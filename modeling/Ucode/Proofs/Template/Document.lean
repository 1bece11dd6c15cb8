import Mathlib.Computability.RegularExpressions
import Ucode.Proofs.Template.Run

/-!
# Documents of paired tags

The tokens of a template alternate between text and tags: no tag opens in another, and each is closed as it was opened. As a
language this is `Tags.document`. A `Tags.Standing` tells where in such a document a token stands, and tokens that can follow
each other are the beginning of a document.
-/
namespace Ucode.Template

open Computability

namespace Token

/-- The tokens of code that stand in every tag. -/
def ofCode : List Token :=
  [string, template, regex, number, double, placeholderOpen, placeholderClose, braceOpen, braceClose]

/-- The tag that is open behind a token. -/
def openTag (block : Block) : Token → Block
  | expressionOpen => .expression
  | statementOpen => .statements
  | expressionClose | statementClose => .none
  | _ => block

/-- Whether a token can stand in the tag that is open: text, comments and opening marks in none, a closing mark in its
own kind, semicolons among statements, and code in both. -/
def FitsTag (block : Block) : Token → Prop
  | rawText | rawComment | expressionOpen | statementOpen => block = .none
  | expressionClose => block = .expression
  | statementClose | semicolon => block = .statements
  | t => t ∈ ofCode ∧ (block = .expression ∨ block = .statements)

end Token

namespace Tags

open RegularExpression

/-- One token of a list. -/
def oneOf (ts : List Token) : RegularExpression Token := ts.foldr (fun t others => char t + others) 0

/-- A comment or a tag, with the text behind it. -/
def tag : RegularExpression Token :=
  char .rawComment * char .rawText +
    char .expressionOpen * (oneOf Token.ofCode).star * char .expressionClose * char .rawText +
    char .statementOpen * (oneOf Token.ofCode + char Token.semicolon).star * char .statementClose * char .rawText

/-- A whole template: text, and then comments and tags with text behind each. -/
def document : RegularExpression Token := char .rawText * tag.star

/-- Where a list of tokens can stand in a document. -/
inductive Standing where
  /-- Text comes next. -/
  | text
  /-- Behind text, before a tag or the end. -/
  | tag
  | expression
  | statements

namespace Standing

/-- The standing behind a token, if it can stand here. -/
def step : Standing → Token → Option Standing
  | text, .rawText => some tag
  | tag, .rawComment => some text
  | tag, .expressionOpen => some expression
  | tag, .statementOpen => some statements
  | expression, .expressionClose => some text
  | statements, .statementClose => some text
  | statements, .semicolon => some statements
  | expression, t => if t ∈ Token.ofCode then some expression else none
  | statements, t => if t ∈ Token.ofCode then some statements else none
  | _, _ => none

/-- The standing behind some tokens, if they can stand here. -/
def walk (standing : Standing) : List Token → Option Standing
  | [] => some standing
  | t :: ts => (standing.step t).bind (·.walk ts)

/-- What makes a document of the tokens before it. -/
def completions : Standing → RegularExpression Token
  | text => document
  | tag => Tags.tag.star
  | expression => (oneOf Token.ofCode).star * (char .expressionClose * document)
  | statements => (oneOf Token.ofCode + char Token.semicolon).star * (char .statementClose * document)

/-- The tag that is open here. -/
def block : Standing → Block
  | text | tag => .none
  | expression => .expression
  | statements => .statements

end Standing

theorem mem_oneOf (ts : List Token) (t : Token) (member : t ∈ ts) : [t] ∈ (oneOf ts).matches' := by
  induction ts with
  | nil => cases member
  | cons u ts ih =>
    rw [oneOf, List.foldr_cons, matches'_add, Language.mem_add]
    rcases List.mem_cons.mp member with rfl | later
    · exact Or.inl rfl
    · exact Or.inr (ih later)

section Words

variable {l m front : RegularExpression Token} {t : Token} {u w : List Token}

theorem cons_mem_mul (rest : w ∈ m.matches') : t :: w ∈ (char t * m).matches' := by
  rw [matches'_mul, matches'_char]
  exact Language.append_mem_mul (Set.mem_singleton [t]) rest

theorem mem_star_mul (rest : w ∈ m.matches') : w ∈ (l.star * m).matches' := by
  have none : m.matches' ≤ l.matches'∗ * m.matches' := le_mul_of_one_le_left' (one_le_kstar (a := l.matches'))
  rw [matches'_mul, matches'_star]
  exact none rest

theorem append_mem_star_mul (first : u ∈ l.matches') (rest : w ∈ (l.star * m).matches') :
    u ++ w ∈ (l.star * m).matches' := by
  rw [matches'_mul, matches'_star] at rest ⊢
  have unfolded : l.matches' * (l.matches'∗ * m.matches') ≤ l.matches'∗ * m.matches' := by
    rw [← mul_assoc]
    exact mul_le_mul_left mul_kstar_le_kstar _
  exact unfolded (Language.append_mem_mul first rest)

theorem matches'_regroup (a b c d : RegularExpression Token) :
    (a * (b * (c * d))).matches' = (a * b * c * d).matches' := by
  simp only [matches'_mul, mul_assoc]

theorem mul_document_mem (begins : ∀ v, v ∈ (front * char Token.rawText).matches' → v ∈ tag.matches')
    (member : w ∈ (front * document).matches') : w ∈ tag.star.matches' := by
  have once : front.matches' * (char Token.rawText).matches' ≤ tag.matches' := begins
  have further : (front * document).matches' ≤ tag.star.matches' := by
    calc (front * document).matches'
        = front.matches' * (char Token.rawText).matches' * tag.matches'∗ := by
          rw [document, matches'_mul, matches'_mul, matches'_star, mul_assoc]
      _ ≤ tag.matches' * tag.matches'∗ := mul_le_mul_left once _
      _ ≤ tag.matches'∗ := mul_kstar_le_kstar
      _ = tag.star.matches' := (matches'_star tag).symm
  exact further member

end Words

theorem step_expression (t : Token) (next : Standing) (stepped : Standing.expression.step t = some next) :
    t = .expressionClose ∧ next = .text ∨ t ∈ Token.ofCode ∧ next = .expression := by
  cases t <;> simp [Standing.step, Token.ofCode] at stepped ⊢ <;> exact stepped.symm

theorem step_statements (t : Token) (next : Standing) (stepped : Standing.statements.step t = some next) :
    t = .statementClose ∧ next = .text ∨ (t ∈ Token.ofCode ∨ t = .semicolon) ∧ next = .statements := by
  cases t <;> simp [Standing.step, Token.ofCode] at stepped ⊢ <;> exact stepped.symm

/-- What completes the tokens behind a token completes those before it, when the token is put in front. -/
theorem step_completions (standing next : Standing) (t : Token) (w : List Token)
    (stepped : standing.step t = some next) (completes : w ∈ next.completions.matches') :
    t :: w ∈ standing.completions.matches' := by
  cases standing with
  | text =>
    cases t <;> simp only [Standing.step, Option.some.injEq, reduceCtorEq] at stepped
    subst stepped
    exact cons_mem_mul completes
  | tag =>
    -- Each of the three tokens begins one alternative of `tag`, and `document` starts with the text behind it.
    cases t <;> simp only [Standing.step, Option.some.injEq, reduceCtorEq] at stepped
    case rawComment =>
      subst stepped
      exact mul_document_mem (fun _ comment => Or.inl (Or.inl comment)) (cons_mem_mul completes)
    case expressionOpen =>
      subst stepped
      have whole := cons_mem_mul (t := .expressionOpen) completes
      rw [Standing.completions, matches'_regroup] at whole
      exact mul_document_mem (fun _ expression => Or.inl (Or.inr expression)) whole
    case statementOpen =>
      subst stepped
      have whole := cons_mem_mul (t := .statementOpen) completes
      rw [Standing.completions, matches'_regroup] at whole
      exact mul_document_mem (fun _ statements => Or.inr statements) whole
  | expression =>
    rcases step_expression t next stepped with ⟨rfl, rfl⟩ | ⟨member, rfl⟩
    -- A closing mark ends the code of the tag, any other token is one more of it.
    · exact mem_star_mul (cons_mem_mul completes)
    · exact append_mem_star_mul (mem_oneOf _ t member) completes
  | statements =>
    rcases step_statements t next stepped with ⟨rfl, rfl⟩ | ⟨member | rfl, rfl⟩
    · exact mem_star_mul (cons_mem_mul completes)
    · exact append_mem_star_mul (Or.inl (mem_oneOf _ t member)) completes
    · exact append_mem_star_mul (Or.inr rfl) completes

theorem completions_nonempty (standing : Standing) : ∃ w, w ∈ standing.completions.matches' := by
  have nothing : [] ∈ tag.star.matches' := by
    rw [matches'_star]
    exact Language.nil_mem_kstar _
  have text : [Token.rawText] ∈ Standing.text.completions.matches' := cons_mem_mul nothing
  cases standing with
  | text => exact ⟨_, text⟩
  | tag => exact ⟨[], nothing⟩
  | expression => exact ⟨_, step_completions .expression .text .expressionClose _ rfl text⟩
  | statements => exact ⟨_, step_completions .statements .text .statementClose _ rfl text⟩

theorem walk_completes (standing next : Standing) (ts : List Token) (walked : standing.walk ts = some next) :
    ∃ rest, ts ++ rest ∈ standing.completions.matches' := by
  induction ts generalizing standing with
  | nil => exact completions_nonempty standing
  | cons t ts ih =>
    obtain ⟨middle, stepped, others⟩ := Option.bind_eq_some_iff.mp walked
    obtain ⟨rest, completes⟩ := ih middle others
    exact ⟨rest, step_completions standing middle t _ stepped completes⟩

theorem step_ofCode (t : Token) (member : t ∈ Token.ofCode) :
    Standing.expression.step t = some .expression ∧ Standing.statements.step t = some .statements := by
  simp only [Token.ofCode, List.mem_cons, List.not_mem_nil, or_false] at member
  rcases member with rfl | rfl | rfl | rfl | rfl | rfl | rfl | rfl | rfl <;> exact ⟨rfl, rfl⟩

theorem ofCode_fitsTag (t : Token) (block : Block) (member : t ∈ Token.ofCode)
    (inside : block = .expression ∨ block = .statements) : t.FitsTag block ∧ t.openTag block = block := by
  simp only [Token.ofCode, List.mem_cons, List.not_mem_nil, or_false] at member
  rcases member with rfl | rfl | rfl | rfl | rfl | rfl | rfl | rfl | rfl <;> exact ⟨⟨by decide, inside⟩, rfl⟩

theorem step_fitsTag (standing next : Standing) (t : Token) (stepped : standing.step t = some next) :
    t.FitsTag standing.block ∧ t.openTag standing.block = next.block := by
  cases standing with
  | text =>
    cases t <;> simp only [Standing.step, Option.some.injEq, reduceCtorEq] at stepped
    subst stepped
    exact ⟨rfl, rfl⟩
  | tag =>
    cases t <;> simp only [Standing.step, Option.some.injEq, reduceCtorEq] at stepped
    all_goals
      subst stepped
      exact ⟨rfl, rfl⟩
  | expression =>
    rcases step_expression t next stepped with ⟨rfl, rfl⟩ | ⟨member, rfl⟩
    · exact ⟨rfl, rfl⟩
    · exact ofCode_fitsTag t .expression member (Or.inl rfl)
  | statements =>
    rcases step_statements t next stepped with ⟨rfl, rfl⟩ | ⟨member | rfl, rfl⟩
    · exact ⟨rfl, rfl⟩
    · exact ofCode_fitsTag t .statements member (Or.inr rfl)
    · exact ⟨rfl, rfl⟩

theorem walk_fitsTag (standing next : Standing) (ts : List Token) (walked : standing.walk ts = some next) :
    Token.EachFits Token.FitsTag Token.openTag standing.block ts := by
  induction ts generalizing standing with
  | nil => trivial
  | cons t ts ih =>
    obtain ⟨middle, stepped, others⟩ := Option.bind_eq_some_iff.mp walked
    obtain ⟨fits, opened⟩ := step_fitsTag standing middle t stepped
    refine ⟨fits, ?_⟩
    rw [opened]
    exact ih middle others

end Tags

end Ucode.Template

import Mathlib.Data.List.TakeWhile
import Mathlib.Tactic.SplitIfs
import Ucode.Proofs.Template.Lengths
import Ucode.Template.Scan

/-!
# What a scan can find

`Context.Reads` is the judgement behind `Context.scanAny`: one rule for each way to read a token, with what has to
stand in the text, how far the token goes and which context it leaves. `Context.Finds` adds what
`Context.scan` does around it: the blanks before the token, the semicolons, and the test that the token is accepted. A
scan that finds a token is one of these rules (`scan_finds`), and `scan_cases` tells what a scan leaves that finds
none, so nobody has to take the scanner apart again.
-/
namespace Ucode.Template

namespace Literal

/-- The token of a literal with a delimiter. -/
def token (delimiter : CodePoint) : Token :=
  if delimiter = templateMark then .template else if delimiter = regexMark then .regex else .string

/-- Whether a code point opens a literal before a text. Two slashes, or a slash and a star, open a comment. -/
def Opens (delimiter : CodePoint) (rest : List CodePoint) : Prop :=
  CodePoint.isAmong ['"', '\'', '\x60'] delimiter = true ∨
    (delimiter = regexMark ∧ rest.head? ≠ some (Char.toNat '/') ∧ rest.head? ≠ some (Char.toNat '*'))

end Literal

namespace Context

/-- The tokens that can be read at the start of a text. -/
inductive Reads (c : Context) (text : List CodePoint) : Scan → Prop where
  | lastText {n : Nat} (mode : c.mode = .text) (raw : Markup.rawText text = (n, none)) :
      Reads c text (.found { c with mode := .finished } .rawText n)
  | textBeforeComment {n : Nat} (mode : c.mode = .text) (raw : Markup.rawText text = (n, some .comment)) :
      Reads c text ⟨{ c with mode := .comment, block := .comment }, some .rawText, 0, n, n + 2⟩
  | textBeforeTag {n : Nat} {tag : Mode} (mode : c.mode = .text) (raw : Markup.rawText text = (n, some tag))
      (kind : tag = .expressionTag ∨ tag = .statementTag) :
      Reads c text ⟨{ c with mode := tag }, some .rawText, 0, n, n + 2⟩
  | comment {n : Nat} (mode : c.mode = .comment) (raw : Markup.rawComment text = (n, true)) :
      Reads c text (.found c.closeTag .rawComment n)
  | expressionOpen {rest : List CodePoint} (mode : c.mode = .expressionTag)
      (split : text = Char.toNat '{' :: Char.toNat '{' :: rest) :
      Reads c text (.found (c.openTag .expression) .expressionOpen
        (if rest.head? = some (Char.toNat '-') then 3 else 2))
  | statementOpen {rest : List CodePoint} (mode : c.mode = .statementTag)
      (split : text = Char.toNat '{' :: Char.toNat '%' :: rest) :
      Reads c text (.found (c.openTag .statements) .statementOpen
        (2 + (rest.length - (Numeral.tryOne ['+', '-'] rest).2.length)))
  | expressionClose {trim rest : List CodePoint} (mode : c.mode = .code) (block : c.block = .expression)
      (trimmed : trim = [] ∨ trim = [Char.toNat '-']) (split : text = trim ++ Char.toNat '}' :: Char.toNat '}' :: rest) :
      Reads c text (.found c.closeTag .expressionClose (trim.length + 2))
  | statementClose {trim rest : List CodePoint} (mode : c.mode = .code) (block : c.block = .statements)
      (trimmed : trim = [] ∨ trim = [Char.toNat '-']) (split : text = trim ++ Char.toNat '%' :: Char.toNat '}' :: rest) :
      Reads c text (.found c.closeTag .statementClose (trim.length + 2))
  | braceClose {rest : List CodePoint} (mode : c.mode = .code) (split : text = Char.toNat '}' :: rest)
      (inside : ¬(c.block = .expression ∧ rest.head? = some (Char.toNat '}'))) :
      Reads c text (.found c.closeBrace.2 c.closeBrace.1 1)
  | braceOpen {rest : List CodePoint} (mode : c.mode = .code) (split : text = Char.toNat '{' :: rest) :
      Reads c text (.found c.openBrace .braceOpen 1)
  | literal {delimiter : CodePoint} {rest : List CodePoint} {e : Literal.End} (mode : c.mode = .code)
      (split : text = delimiter :: rest) (opens : Literal.Opens delimiter rest)
      (ends : Literal.end? delimiter rest = some e) :
      Reads c text ⟨if e.placeholder then { c with mode := .placeholder } else c, some (Literal.token delimiter), 0,
        1 + e.stop, 1 + e.read⟩
  | numeral {first : CodePoint} {rest : List CodePoint} (mode : c.mode = .code) (split : text = first :: rest)
      (digit : CodePoint.isAmong Digit.decimal first = true) :
      Reads c text ⟨c, some (if (Numeral.ofDigits first rest).double then .double else .number), 0,
        (Numeral.ofDigits first rest).stop + 1, (Numeral.ofDigits first rest).read + 1⟩
  | placeholderOpen {rest : List CodePoint} (mode : c.mode = .placeholder)
      (split : text = Char.toNat '$' :: Char.toNat '{' :: rest) :
      Reads c text (.found c.openPlaceholder .placeholderOpen 2)
  | template {e : Literal.End} (mode : c.mode = .template)
      (ends : Literal.end? Literal.templateMark text = some e) :
      Reads c text ⟨{ c with mode := if e.placeholder then .placeholder else .code }, some .template, 0,
        e.stop, e.read⟩

/-- The outcomes of reading at the start of a text: a token, or nothing. Nothing leaves the context as it is, or gives
up on the text, or on a template literal. -/
inductive Outcome (c : Context) (text : List CodePoint) : Scan → Prop where
  | read {s : Scan} (reads : Reads c text s) : Outcome c text s
  | stay (n : Nat) : Outcome c text (.nothing c n)
  | finish (n : Nat) (mode : c.mode = .comment ∨ c.mode = .code) :
      Outcome c text (.nothing { c with mode := .finished } n)
  | leave (n : Nat) (mode : c.mode = .template) : Outcome c text (.nothing { c with mode := .code } n)

section Modes

variable (c : Context) (text : List CodePoint)

theorem scanLiteral_none (delimiter : CodePoint) (offset : Nat) (unterminated : Literal.end? delimiter text = none) :
    c.scanLiteral delimiter offset text = .nothing c offset := by
  unfold scanLiteral
  rw [unterminated]

theorem scanLiteral_some (delimiter : CodePoint) (offset : Nat) (e : Literal.End)
    (ends : Literal.end? delimiter text = some e) : c.scanLiteral delimiter offset text =
      ⟨if e.placeholder then { c with mode := .placeholder } else c, some (Literal.token delimiter), 0,
        offset + e.stop, offset + e.read⟩ := by
  unfold scanLiteral
  rw [ends]
  rfl

theorem scanText_outcome (mode : c.mode = .text) : Outcome c text (c.scanText text) := by
  unfold scanText
  split
  · next raw => exact .read (.lastText mode raw)
  · next raw => exact .read (.textBeforeComment mode raw)
  · next n tag other raw =>
    -- Text only ever stops before an opening mark, and there are three of them.
    have kind := Markup.opener?_kind _ tag (Markup.opener?_rawText text tag (by rw [raw]))
    rcases kind with rfl | kind
    · exact absurd rfl other
    · exact .read (.textBeforeTag mode raw kind)

theorem scanComment_outcome (mode : c.mode = .comment) : Outcome c text (c.scanComment text) := by
  unfold scanComment
  split
  · next raw => exact .read (.comment mode raw)
  · exact .finish _ (Or.inl mode)

theorem scanExpressionTag_outcome (mode : c.mode = .expressionTag) : Outcome c text (c.scanExpressionTag text) := by
  unfold scanExpressionTag
  split
  · next a b rest =>
    by_cases marks : a = '{' ∧ b = '{'
    · rw [if_pos marks]
      obtain ⟨rfl, rfl⟩ := marks
      exact .read (.expressionOpen mode rfl)
    · rw [if_neg marks]
      exact .stay 0
  · exact .stay 0

theorem scanStatementTag_outcome (mode : c.mode = .statementTag) : Outcome c text (c.scanStatementTag text) := by
  unfold scanStatementTag
  split
  · next a b rest =>
    by_cases marks : a = '{' ∧ b = '%'
    · rw [if_pos marks]
      obtain ⟨rfl, rfl⟩ := marks
      exact .read (.statementOpen mode rfl)
    · rw [if_neg marks]
      exact .stay 0
  · exact .stay 0

theorem scanPlaceholder_outcome (mode : c.mode = .placeholder) : Outcome c text (c.scanPlaceholder text) := by
  unfold scanPlaceholder
  split
  · next a b rest =>
    by_cases marks : a = '$' ∧ b = '{'
    · rw [if_pos marks]
      obtain ⟨rfl, rfl⟩ := marks
      exact .read (.placeholderOpen mode rfl)
    · rw [if_neg marks]
      exact .stay 0
  · exact .stay 0

/-- The remainder of a template literal behind a placeholder. -/
theorem scanTemplate_outcome (mode : c.mode = .template) :
    Outcome c text ({ c with mode := .code }.scanLiteral Literal.templateMark 0 text) := by
  cases ends : Literal.end? Literal.templateMark text with
  | none =>
    rw [scanLiteral_none _ text _ 0 ends]
    exact .leave 0 mode
  | some e =>
    rw [scanLiteral_some _ text _ 0 e ends]
    have read := Reads.template mode ends
    cases placeholder : e.placeholder <;> exact .read (by simpa [placeholder, Literal.token] using read)

theorem scanLiteral_outcome (delimiter : CodePoint) (rest : List CodePoint) (mode : c.mode = .code)
    (opens : Literal.Opens delimiter rest) : Outcome c (delimiter :: rest) (c.scanLiteral delimiter 1 rest) := by
  cases ends : Literal.end? delimiter rest with
  | none =>
    rw [scanLiteral_none c rest delimiter 1 ends]
    exact .stay 1
  | some e =>
    rw [scanLiteral_some c rest delimiter 1 e ends]
    exact .read (.literal mode rfl opens ends)

/-- What begins with a minus sign can only close a tag. -/
theorem scanMinus_outcome (rest : List CodePoint) (mode : c.mode = .code) :
    Outcome c (Char.toNat '-' :: rest) (c.scanCode (Char.toNat '-' :: rest)) := by
  unfold scanCode
  dsimp only
  rw [if_neg (by decide), if_pos rfl]
  split
  · next x y others =>
    split_ifs with statement expression
    · obtain ⟨block, rfl, rfl⟩ := statement
      exact .read (.statementClose mode block (Or.inr rfl) rfl)
    · obtain ⟨block, rfl, rfl⟩ := expression
      exact .read (.expressionClose mode block (Or.inr rfl) rfl)
    · exact .stay 1
  · exact .stay 1

theorem scanCode_outcome (mode : c.mode = .code) : Outcome c text (c.scanCode text) := by
  cases text with
  | nil => exact .finish 0 (Or.inr mode)
  | cons a rest =>
    by_cases minus : a = '-'
    · subst minus
      exact scanMinus_outcome c rest mode
    · unfold scanCode
      dsimp only
      rw [if_neg minus]
      -- One case for each branch, in the order in which they are tried.
      split_ifs with nul percent statement shut expression brace quote slash comment digit double
      · exact .finish 0 (Or.inr mode)
      · obtain ⟨block, next⟩ := statement
        obtain ⟨others, rfl⟩ := List.head?_eq_some_iff.mp next
        subst percent
        exact .read (.statementClose mode block (Or.inl rfl) rfl)
      · exact .stay 1
      · obtain ⟨block, next⟩ := expression
        obtain ⟨others, rfl⟩ := List.head?_eq_some_iff.mp next
        subst shut
        exact .read (.expressionClose mode block (Or.inl rfl) rfl)
      · subst shut
        exact .read (.braceClose mode rfl expression)
      · subst brace
        exact .read (.braceOpen mode rfl)
      · exact scanLiteral_outcome c a rest mode (Or.inl quote)
      · exact .stay 1
      · rw [not_or] at comment
        subst slash
        exact scanLiteral_outcome c _ rest mode (Or.inr ⟨rfl, comment⟩)
      · have read := Reads.numeral mode (rfl : a :: rest = a :: rest) digit
        rw [if_pos double] at read
        exact .read read
      · have read := Reads.numeral mode (rfl : a :: rest = a :: rest) digit
        rw [if_neg double] at read
        exact .read read
      · exact .stay 0

end Modes

section Blanks

variable (text : List CodePoint)

theorem blanks_append : text = text.takeWhile CodePoint.isBlank ++ text.dropWhile CodePoint.isBlank :=
  List.takeWhile_append_dropWhile.symm

theorem blanks_blank : ∀ x ∈ text.takeWhile CodePoint.isBlank, CodePoint.isBlank x = true :=
  fun _ member => List.mem_takeWhile_imp member

theorem blanks_length :
    text.length - (text.dropWhile CodePoint.isBlank).length = (text.takeWhile CodePoint.isBlank).length := by
  have whole := congrArg List.length (blanks_append text)
  rw [List.length_append] at whole
  omega

end Blanks

/-- In every mode a scan reads at once, but in code it reads behind the blanks. -/
theorem scanAny_outcome (c : Context) (text : List CodePoint) :
    ∃ gap rest s, text = gap ++ rest ∧ (∀ x ∈ gap, CodePoint.isBlank x = true) ∧ Outcome c rest s ∧
      c.scanAny text = s.behind gap.length := by
  -- Outside of code nothing is passed over, not even blanks: there they are part of the text.
  have atOnce : ∀ s, Outcome c text s → ∃ gap rest s', text = gap ++ rest ∧
      (∀ x ∈ gap, CodePoint.isBlank x = true) ∧ Outcome c rest s' ∧ s = s'.behind gap.length :=
    fun s outcome => ⟨[], text, s, rfl, by simp, outcome, rfl⟩
  unfold scanAny
  cases mode : c.mode with
  | initial => exact atOnce _ (.stay 0)
  | text => exact atOnce _ (scanText_outcome c text mode)
  | comment => exact atOnce _ (scanComment_outcome c text mode)
  | expressionTag => exact atOnce _ (scanExpressionTag_outcome c text mode)
  | statementTag => exact atOnce _ (scanStatementTag_outcome c text mode)
  | code =>
    simp only [blanks_length]
    exact ⟨_, _, _, blanks_append text, blanks_blank text, scanCode_outcome c _ mode, rfl⟩
  | placeholder => exact atOnce _ (scanPlaceholder_outcome c text mode)
  | template => exact atOnce _ (scanTemplate_outcome c text mode)
  | finished => exact atOnce _ (.stay 0)

/-- Whether a statement that stands before a text needs no semicolon: the text has ended, or a brace closes. -/
def EndsStatement (rest : List CodePoint) : Prop :=
  ∀ a ∈ rest.head?, a = Char.toNat '}' ∨ a = CodePoint.nul

/-- The tokens that a scan can find, behind the blanks before them. -/
inductive Finds (accepts : Token → Bool) (c : Context) (text : List CodePoint) : Scan → Prop where
  | semicolon {gap rest : List CodePoint} (split : text = gap ++ Char.toNat ';' :: rest)
      (blank : ∀ x ∈ gap, CodePoint.isBlank x = true) (block : (c.start accepts).block = .statements)
      (accepted : accepts .semicolon = true) :
      Finds accepts c text ((Scan.found { c.start accepts with semicolon := false } .semicolon 1).behind gap.length)
  | emptySemicolon {gap rest : List CodePoint} (split : text = gap ++ rest)
      (blank : ∀ x ∈ gap, CodePoint.isBlank x = true) (ends : EndsStatement rest)
      (block : (c.start accepts).block = .statements) (accepted : accepts .semicolon = true)
      (first : (c.start accepts).semicolon = false) :
      Finds accepts c text ((Scan.found { c.start accepts with semicolon := true } .semicolon 0).behind gap.length)
  | token {gap rest : List CodePoint} {s : Scan} {t : Token} (split : text = gap ++ rest)
      (blank : ∀ x ∈ gap, CodePoint.isBlank x = true) (reads : Reads (c.start accepts) rest s)
      (token : s.token = some t) (accepted : accepts t = true) :
      Finds accepts c text ({ s with context := { s.context with semicolon := false } }.behind gap.length)

theorem scanSemicolon_cases (c : Context) (text : List CodePoint) (s : Scan) (outcome : c.scanSemicolon text = some s) :
    (∃ rest, text = Char.toNat ';' :: rest ∧ s = .found { c with semicolon := false } .semicolon 1) ∨
      (EndsStatement text ∧ c.semicolon = false ∧ s = .found { c with semicolon := true } .semicolon 0) ∨
      s = .nothing { c with semicolon := false } 0 := by
  -- An empty semicolon stands at the end of the text and before a brace, so its flag is looked at once for both.
  have leftOut : ∀ ends : EndsStatement text, scanSemicolon.empty c = s →
      (EndsStatement text ∧ c.semicolon = false ∧ s = .found { c with semicolon := true } .semicolon 0) ∨
        s = .nothing { c with semicolon := false } 0 := by
    intro ends same
    unfold scanSemicolon.empty at same
    cases flag : c.semicolon with
    | false => exact Or.inl ⟨ends, rfl, by simpa [flag] using same.symm⟩
    | true => exact Or.inr (by simpa [flag] using same.symm)
  cases text with
  | nil =>
    have ends : EndsStatement [] := by simp [EndsStatement]
    exact Or.inr (leftOut ends (Option.some.inj outcome))
  | cons a rest =>
    unfold scanSemicolon at outcome
    dsimp only at outcome
    split_ifs at outcome with written closes
    · subst written
      exact Or.inl ⟨rest, rfl, (Option.some.inj outcome).symm⟩
    · have ends : EndsStatement (a :: rest) := by simpa [EndsStatement] using closes
      exact Or.inr (leftOut ends (Option.some.inj outcome))

/-- What a scan leaves when it finds nothing. -/
def LeavesNothing (accepts : Token → Bool) (c : Context) (s : Scan) : Prop :=
  s.token = none ∧ (s.context = { c.start accepts with semicolon := false } ∨
    ∃ rest outcome, Outcome (c.start accepts) rest outcome ∧ s.context = outcome.context)

theorem behind_behind (s : Scan) (inner outer : Nat) : (s.behind inner).behind outer = s.behind (outer + inner) := by
  simp only [Scan.behind, Scan.mk.injEq, true_and]
  omega

theorem Reads.token {c : Context} {text : List CodePoint} {s : Scan} (reads : Reads c text s) :
    ∃ t, s.token = some t := by
  cases reads <;> exact ⟨_, rfl⟩

/-- A scan that is not about semicolons, behind blanks that were passed over before. -/
theorem scanAny_accept_cases (accepts : Token → Bool) (c : Context) (text gap rest : List CodePoint)
    (split : text = gap ++ rest) (blank : ∀ x ∈ gap, CodePoint.isBlank x = true) :
    Finds accepts c text ((((c.start accepts).scanAny rest).accept accepts).behind gap.length) ∨
      LeavesNothing accepts c ((((c.start accepts).scanAny rest).accept accepts).behind gap.length) := by
  obtain ⟨inner, tail, s, parts, blankInner, outcome, scanned⟩ := scanAny_outcome (c.start accepts) rest
  rw [scanned]
  cases outcome with
  | read reads =>
    obtain ⟨t, token⟩ := reads.token
    have read : (s.behind inner.length).token = some t := token
    simp only [Scan.accept, read]
    by_cases accepted : accepts t = true
    · left
      rw [if_pos accepted]
      -- In a statement the blanks are passed over before semicolons are looked for, elsewhere within `scanAny`.
      have whole : text = (gap ++ inner) ++ tail := by rw [split, parts, List.append_assoc]
      have blanks : ∀ x ∈ gap ++ inner, CodePoint.isBlank x = true := by
        intro x member
        rcases List.mem_append.mp member with before | within
        · exact blank x before
        · exact blankInner x within
      have found := Finds.token whole blanks reads token accepted
      rw [List.length_append, ← behind_behind, token] at found
      exact found
    · -- A token that is not accepted has changed the context all the same.
      right
      rw [if_neg accepted]
      exact ⟨rfl, Or.inr ⟨tail, s, .read reads, rfl⟩⟩
  | stay n => exact Or.inr ⟨rfl, Or.inr ⟨tail, _, .stay n, rfl⟩⟩
  | finish n mode => exact Or.inr ⟨rfl, Or.inr ⟨tail, _, .finish n mode, rfl⟩⟩
  | leave n mode => exact Or.inr ⟨rfl, Or.inr ⟨tail, _, .leave n mode, rfl⟩⟩

/-- A scan finds something by one of the rules, or nothing. -/
theorem scan_cases (accepts : Token → Bool) (c : Context) (text : List CodePoint) :
    Finds accepts c text (c.scan accepts text) ∨ LeavesNothing accepts c (c.scan accepts text) := by
  unfold scan
  dsimp only
  -- Only where a semicolon may stand is it looked for, and then behind the blanks.
  split_ifs with statement
  · obtain ⟨block, accepted⟩ := statement
    have blank := blanks_blank text
    rw [blanks_length]
    cases semicolon : (c.start accepts).scanSemicolon (text.dropWhile CodePoint.isBlank) with
    | none => exact scanAny_accept_cases accepts c text _ _ (blanks_append text) blank
    | some outcome =>
      rcases scanSemicolon_cases _ _ outcome semicolon with ⟨rest, written, rfl⟩ | ⟨ends, first, rfl⟩ | rfl
      · have split : text = text.takeWhile CodePoint.isBlank ++ Char.toNat ';' :: rest := by
          rw [← written]
          exact blanks_append text
        exact Or.inl (.semicolon split blank block accepted)
      · exact Or.inl (.emptySemicolon (blanks_append text) blank ends block accepted first)
      · exact Or.inr ⟨rfl, Or.inl rfl⟩
  · exact scanAny_accept_cases accepts c text [] text rfl (by simp)

/-- Whatever a scan finds, it finds by one of the rules. -/
theorem scan_finds (accepts : Token → Bool) (c : Context) (text : List CodePoint) (t : Token)
    (found : (c.scan accepts text).token = some t) : Finds accepts c text (c.scan accepts text) := by
  rcases scan_cases accepts c text with finds | ⟨nothing, _⟩
  · exact finds
  · simp [nothing] at found

end Context
end Ucode.Template

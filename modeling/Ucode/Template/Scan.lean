import Ucode.Template.Context
import Ucode.Template.Literal
import Ucode.Template.Markup
import Ucode.Template.Numeral

/-!
# Scanning one token

`Context.scan` reads the template token that stands next, if the caller accepts it there. The outcome says where
the token starts and ends, how far the text was read to find it, and which context it leaves. A scan that
finds nothing can leave a changed context, too: whoever wants the old one back keeps it.
-/
namespace Ucode.Template

/-- The outcome of a scan; all positions are counted in code points from where it began. -/
structure Scan where
  context : Context
  token : Option Token
  start : Nat
  stop : Nat
  read : Nat
  deriving DecidableEq, Repr

namespace Scan

/-- Nothing was found. -/
def nothing (context : Context) (read : Nat) : Scan := ⟨context, none, 0, 0, read⟩

/-- A token that ends where the reader stopped. -/
def found (context : Context) (token : Token) (length : Nat) : Scan := ⟨context, some token, 0, length, length⟩

/-- The same outcome when so many blanks stand before it. -/
def behind (blanks : Nat) (s : Scan) : Scan :=
  { s with start := s.start + blanks, stop := s.stop + blanks, read := s.read + blanks }

/-- The same outcome if its token is accepted; the context is kept either way. -/
def accept (valid : Token → Bool) (s : Scan) : Scan :=
  match s.token with
  | some t => if valid t then { s with context := { s.context with semicolon := false } }
      else nothing s.context s.read
  | none => s

end Scan

namespace Context

/-- The literal that goes on with `text`, whose first `offset` code points were read. -/
def scanLiteral (c : Context) (delimiter : CodePoint) (offset : Nat) (text : List CodePoint) : Scan :=
  let token : Token :=
    if delimiter = Literal.templateMark then .template
    else if delimiter = Literal.regexMark then .regex
    else .string
  match Literal.end? delimiter text with
  | none => .nothing c offset
  | some e =>
    ⟨if e.placeholder then { c with mode := .placeholder } else c, some token, 0, offset + e.stop, offset + e.read⟩

/-- The text up to the next tag. -/
def scanText (c : Context) (text : List CodePoint) : Scan :=
  match Markup.rawText text with
  | (n, none) => .found { c with mode := .finished } .rawText n
  -- The mark of the next tag is read but no part of the text, so it is read once more as a token of its own, except
  -- that of a comment, which has none.
  | (n, some .comment) => ⟨{ c with mode := .comment, block := .comment }, some .rawText, 0, n, n + 2⟩
  | (n, some mode) => ⟨{ c with mode := mode }, some .rawText, 0, n, n + 2⟩

/-- The comment tag up to its closing mark. -/
def scanComment (c : Context) (text : List CodePoint) : Scan :=
  match Markup.rawComment text with
  | (n, true) => .found c.closeTag .rawComment n
  | (n, false) => .nothing { c with mode := .finished } n

/-- The opening mark of an expression tag, with its trim mark. -/
def scanExpressionTag (c : Context) : List CodePoint → Scan
  | a :: b :: rest =>
    if a = '{' ∧ b = '{' then
      .found (c.openTag .expression) .expressionOpen (if rest.head? = some (Char.toNat '-') then 3 else 2)
    else .nothing c 0
  | _ => .nothing c 0

/-- The opening mark of a statement tag, with its trim mark. -/
def scanStatementTag (c : Context) : List CodePoint → Scan
  | a :: b :: rest =>
    if a = '{' ∧ b = '%' then
      let (_, behind) := Numeral.tryOne ['+', '-'] rest
      .found (c.openTag .statements) .statementOpen (2 + (rest.length - behind.length))
    else .nothing c 0
  | _ => .nothing c 0

/-- The opening mark of a placeholder. -/
def scanPlaceholder (c : Context) : List CodePoint → Scan
  | a :: b :: _ =>
    if a = '$' ∧ b = '{' then .found c.openPlaceholder .placeholderOpen 2 else .nothing c 0
  | _ => .nothing c 0

/-- The token that starts with the first code point of a text, in code. -/
def scanCode (c : Context) : List CodePoint → Scan
  | [] => .nothing { c with mode := .finished } 0
  | a :: rest =>
    if a = CodePoint.nul then .nothing { c with mode := .finished } 0
    else if a = '-' then
      match rest with
      | x :: y :: _ =>
        -- A minus sign is a trim mark only in front of the closing mark of the tag that is open.
        if c.block = .statements ∧ x = '%' ∧ y = '}' then .found c.closeTag .statementClose 3
        else if c.block = .expression ∧ x = '}' ∧ y = '}' then .found c.closeTag .expressionClose 3
        else .nothing c 1
      | _ => .nothing c 1
    else if a = '%' then
      if c.block = .statements ∧ rest.head? = some (Char.toNat '}') then .found c.closeTag .statementClose 2
      else .nothing c 1
    else if a = '}' then
      if c.block = .expression ∧ rest.head? = some (Char.toNat '}') then .found c.closeTag .expressionClose 2
      else
        -- Which token a single brace is depends on the braces and the literals around it.
        let (token, after) := c.closeBrace
        .found after token 1
    else if a = '{' then .found c.openBrace .braceOpen 1
    else if CodePoint.isAmong ['"', '\'', '\x60'] a then c.scanLiteral a 1 rest
    else if a = '/' then
      -- A comment in code is left to the lexer of the code.
      if rest.head? = some (Char.toNat '/') ∨ rest.head? = some (Char.toNat '*') then .nothing c 1
      else c.scanLiteral Literal.regexMark 1 rest
    else if CodePoint.isAmong Digit.decimal a then
      let numeral := Numeral.ofDigits a rest
      ⟨c, some (if numeral.double then .double else .number), 0, numeral.stop + 1, numeral.read + 1⟩
    else .nothing c 0

/-- The token that the mode of the context leads to expect, whether or not it is accepted. -/
def scanAny (c : Context) (text : List CodePoint) : Scan :=
  match c.mode with
  | .initial => .nothing c 0
  | .text => c.scanText text
  | .comment => c.scanComment text
  | .expressionTag => c.scanExpressionTag text
  | .statementTag => c.scanStatementTag text
  | .code =>
    let rest := text.dropWhile CodePoint.isBlank
    (c.scanCode rest).behind (text.length - rest.length)
  | .placeholder => c.scanPlaceholder text
  -- The literal around a placeholder that was closed goes on without a mark of its own.
  | .template => { c with mode := .code }.scanLiteral Literal.templateMark 0 text
  | .finished => .nothing c 0

/-- The end of a statement, with or without a semicolon, if one can be read here. -/
def scanSemicolon (c : Context) : List CodePoint → Option Scan
  | [] => some empty
  | a :: _ =>
    if a = ';' then some (.found { c with semicolon := false } .semicolon 1)
    else if a = '}' ∨ a = CodePoint.nul then some empty
    else none
where
  /-- No semicolon is needed before a closing brace and at the end, but one is read there only once. -/
  empty : Scan :=
    if c.semicolon then .nothing { c with semicolon := false } 0
    else .found { c with semicolon := true } .semicolon 0

/-- The next token of a text, if it is one of those that are accepted. -/
def scan (valid : Token → Bool) (context : Context) (text : List CodePoint) : Scan :=
  let c := context.start valid
  if c.block = .statements ∧ valid .semicolon then
    let rest := text.dropWhile CodePoint.isBlank
    let blanks := text.length - rest.length
    -- Whether a semicolon stands next is decided before the mode of the context is looked at.
    match c.scanSemicolon rest with
    | some outcome => outcome.behind blanks
    | none => ((c.scanAny rest).accept valid).behind blanks
  else (c.scanAny text).accept valid

end Context
end Ucode.Template

import Ucode.Text.CodePoint
import Ucode.Template.Token

/-!
# Reading context

What a token means in a template depends on what was read before it: whether the reader stands in text, in a
tag or in a template literal, which kind of tag is open, and how the braces nest inside the placeholders
that are open. `Context` holds exactly that and nothing about the text itself.
-/
namespace Ucode.Template

/-- Which tokens can stand next. -/
inductive Mode where
  /-- Nothing was read yet. -/
  | initial
  /-- In text, up to the next tag. -/
  | text
  /-- At a comment tag. -/
  | comment
  /-- At the opening mark of an expression tag. -/
  | expressionTag
  /-- At the opening mark of a statement tag. -/
  | statementTag
  /-- In code. -/
  | code
  /-- At the opening mark of a placeholder in a template literal. -/
  | placeholder
  /-- In a template literal, behind a placeholder. -/
  | template
  /-- The text has ended. -/
  | finished
  deriving DecidableEq, Repr, Inhabited

/-- The kind of the tag that is open. -/
inductive Block where
  | none
  | expression
  | statements
  | comment
  deriving DecidableEq, Repr, Inhabited

/-- Where in a template the reader stands. -/
structure Context where
  mode : Mode
  block : Block
  /-- An empty semicolon was just read here, so that another one is not read in its place. -/
  semicolon : Bool
  /-- How many braces are open in each placeholder that is open, the innermost first. -/
  nesting : List Nat
  deriving DecidableEq, Repr, Inhabited

namespace Context

/-- The context in which every text starts. -/
def fresh : Context := ⟨.initial, .none, false, []⟩

/-- The first token decides between a template, which starts with text, and a script, which starts as
if a statement tag had been opened before it. -/
def start (valid : Token → Bool) (c : Context) : Context :=
  if c.mode = .initial then
    if valid .rawText then { c with mode := .text } else { c with mode := .code, block := .statements }
  else c

/-- Back in text behind a closed tag. -/
def closeTag (c : Context) : Context := { c with mode := .text, block := .none }

/-- In code behind the opening mark of a tag. -/
def openTag (c : Context) (block : Block) : Context := { c with mode := .code, block := block }

/-- A brace opens; it counts only inside a placeholder. -/
def openBrace (c : Context) : Context :=
  match c.nesting with
  | [] => c
  | depth :: outer => { c with nesting := (depth + 1) :: outer }

/-- A brace closes: the innermost one open in a placeholder, or else the placeholder itself. -/
def closeBrace (c : Context) : Token × Context :=
  match c.nesting with
  | [] => (.braceClose, c)
  | 0 :: outer => (.placeholderClose, { c with nesting := outer, mode := .template })
  | (depth + 1) :: outer => (.braceClose, { c with nesting := depth :: outer })

/-- A placeholder opens. -/
def openPlaceholder (c : Context) : Context := { c with mode := .code, nesting := 0 :: c.nesting }

end Context
end Ucode.Template

import Ucode.Code.LexemeStates

/-!
# Lexemes of the code

The tokens of the code that do not depend on the template around them: operators and punctuation, words, comments,
the first line of a script and the flags of a regular expression. `read?` skips blanks and then takes the
longest lexeme of its mode, as the machine of the lexemes finds it.
-/
namespace Ucode.Code

/-- Which lexemes are read. -/
inductive Mode where
  /-- All of them. -/
  | any
  /-- Those that can start an operand. -/
  | operand
  /-- Those that can follow an operand. -/
  | operator
  /-- The flags of a regular expression. -/
  | flags
  deriving DecidableEq, Repr, Inhabited

/-- The state in which the machine starts. -/
def Mode.start : Mode → Nat
  | any => 0
  | operand => 2
  | operator => 8
  | flags => 21

/-- How far the machine comes in a text. -/
def advance (mode : Mode) (text : List CodePoint) : Progress := lexemes.run mode.start Progress.none text

/-- The lexeme that stands next in a text. -/
def read? (mode : Mode) (text : List CodePoint) : Option Reading := (advance mode text).reading?

end Ucode.Code

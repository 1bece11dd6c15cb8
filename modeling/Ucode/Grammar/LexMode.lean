import Ucode.Code.Lexeme
import Ucode.Template.Token

/-!
# Lexical modes

A parse state accepts only some tokens. Its lexical mode says which lexemes of the code and which
template tokens are read there.
-/
namespace Ucode.Grammar

/-- The tokens that are read in a state. -/
structure LexMode where
  code : Code.Mode
  /-- The number of a set of template tokens; in set 0 there is none. -/
  template : Nat
  deriving DecidableEq, Repr, Inhabited

namespace LexMode

/-- The modes that the parse table refers to by number. -/
def table : Array LexMode := #[
  ⟨.any, 1⟩,  -- 0
  ⟨.any, 2⟩,  -- 1
  ⟨.operand, 3⟩,  -- 2
  ⟨.any, 3⟩,  -- 3
  ⟨.operator, 2⟩,  -- 4
  ⟨.operator, 3⟩,  -- 5
  ⟨.operator, 4⟩,  -- 6
  ⟨.operator, 5⟩,  -- 7
  ⟨.operator, 0⟩,  -- 8
  ⟨.operator, 6⟩,  -- 9
  ⟨.any, 7⟩,  -- 10
  ⟨.operator, 8⟩,  -- 11
  ⟨.any, 9⟩,  -- 12
  ⟨.operator, 10⟩,  -- 13
  ⟨.operand, 7⟩,  -- 14
  ⟨.operator, 11⟩,  -- 15
  ⟨.operator, 12⟩,  -- 16
  ⟨.operator, 13⟩,  -- 17
  ⟨.operator, 14⟩,  -- 18
  ⟨.operator, 15⟩,  -- 19
  ⟨.any, 0⟩,  -- 20
  ⟨.operator, 16⟩,  -- 21
  ⟨.operator, 17⟩,  -- 22
  ⟨.any, 8⟩,  -- 23
  ⟨.any, 11⟩,  -- 24
  ⟨.any, 12⟩,  -- 25
  ⟨.any, 10⟩,  -- 26
  ⟨.operand, 18⟩,  -- 27
  ⟨.any, 19⟩,  -- 28
  ⟨.operand, 20⟩,  -- 29
  ⟨.operand, 0⟩,  -- 30
  ⟨.any, 20⟩,  -- 31
  ⟨.any, 21⟩,  -- 32
  ⟨.flags, 0⟩  -- 33
]

/-- The sets of template tokens. -/
def templateSets : Array (List Template.Token) := #[
  [],
  [.rawText, .rawComment, .string, .template, .regex, .number, .double, .expressionOpen, .expressionClose,
    .placeholderOpen, .placeholderClose, .braceOpen, .braceClose, .semicolon, .statementOpen,
    .statementClose, .error],
  [.rawText, .rawComment, .string, .template, .regex, .number, .double, .expressionOpen, .braceOpen,
    .semicolon, .statementOpen, .statementClose],
  [.rawText, .rawComment, .string, .template, .regex, .number, .double, .expressionOpen, .braceOpen,
    .braceClose, .semicolon, .statementOpen, .statementClose],
  [.rawText, .rawComment, .string, .template, .regex, .number, .double, .expressionOpen, .placeholderOpen,
    .braceOpen, .semicolon, .statementOpen, .statementClose],
  [.rawText, .rawComment, .string, .template, .regex, .number, .double, .expressionOpen, .placeholderOpen,
    .braceOpen, .braceClose, .semicolon, .statementOpen, .statementClose],
  [.braceClose, .semicolon, .statementOpen, .statementClose],
  [.string, .template, .regex, .number, .double, .braceOpen],
  [.semicolon, .statementOpen, .statementClose],
  [.string, .template, .regex, .number, .double, .braceOpen, .semicolon, .statementOpen, .statementClose],
  [.braceClose],
  [.expressionClose],
  [.placeholderClose],
  [.placeholderOpen],
  [.placeholderOpen, .semicolon, .statementOpen, .statementClose],
  [.placeholderOpen, .placeholderClose],
  [.placeholderOpen, .braceClose],
  [.expressionClose, .placeholderOpen],
  [.string, .braceClose],
  [.braceOpen],
  [.string],
  [.template]
]

/-- Whether a template token is accepted. -/
def accepts (m : LexMode) (t : Template.Token) : Bool := (templateSets.getD m.template []).contains t

/-- The symbol of each template token, in the order of its index. -/
def templateSymbols : Array Symbol := #[90, 91, 92, 93, 94, 95, 96, 97, 98, 99, 100, 26, 27, 101, 102, 103, 104]

/-- The symbol of a template token. -/
def symbolOf (t : Template.Token) : Symbol := templateSymbols.getD t.index Symbol.error

end LexMode
end Ucode.Grammar

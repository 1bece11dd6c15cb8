/-!
# Template tokens

A template is text with tags in it. These are the tokens that depend on where in a template the reader
stands: pieces of text, the marks that open and close a tag or a placeholder, braces, and the literals.
All other tokens of the language are `Ucode.Code` lexemes.
-/
namespace Ucode.Template

/-- The kinds of template tokens. -/
inductive Token where
  | rawText
  | rawComment
  | string
  | template
  | regex
  | number
  | double
  | expressionOpen
  | expressionClose
  | placeholderOpen
  | placeholderClose
  | braceOpen
  | braceClose
  | semicolon
  | statementOpen
  | statementClose
  /-- Stands in no text. A caller that accepts it accepts everything, as it does after an error. -/
  | error
  deriving DecidableEq, Repr, Inhabited

namespace Token

/-- Every token, in the order of its index. -/
def all : List Token :=
  [rawText, rawComment, string, template, regex, number, double, expressionOpen, expressionClose,
    placeholderOpen, placeholderClose, braceOpen, braceClose, semicolon, statementOpen, statementClose, error]

/-- The number of a token. -/
def index : Token → Nat
  | rawText => 0 | rawComment => 1 | string => 2 | template => 3 | regex => 4 | number => 5 | double => 6
  | expressionOpen => 7 | expressionClose => 8 | placeholderOpen => 9 | placeholderClose => 10
  | braceOpen => 11 | braceClose => 12 | semicolon => 13 | statementOpen => 14 | statementClose => 15
  | error => 16

/-- The kind a token has in a tree. -/
def name : Token → String
  | rawText => "raw_text"
  | rawComment => "raw_comment"
  | string => "string"
  | template => "template"
  | regex => "regex_pattern"
  | number => "number"
  | double => "double"
  | expressionOpen => "expression_tag_open"
  | expressionClose => "expression_tag_close"
  | placeholderOpen => "placeholder_open"
  | placeholderClose => "placeholder_close"
  | braceOpen => "\x7b"
  | braceClose => "\x7d"
  | semicolon => "_optional_semicolon"
  | statementOpen => "statement_tag_open"
  | statementClose => "statement_tag_close"
  | error => "error"

/-- The token of a name. -/
def ofName? (s : String) : Option Token := all.find? (·.name == s)

theorem mem_all (t : Token) : t ∈ all := by cases t <;> decide

theorem all_index (t : Token) : all[t.index]? = some t := by cases t <;> rfl

end Token
end Ucode.Template

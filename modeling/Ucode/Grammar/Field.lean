/-!
# Fields

A rule can name some of its parts. The names are numbered from 1.
-/
namespace Ucode

/-- The number of a field. -/
abbrev Field := Nat

namespace Field

/-- The names, from that of field 1 on. -/
def names : Array String := #[
  "alias",  -- 1
  "alternative",  -- 2
  "argument",  -- 3
  "case",  -- 4
  "catch",  -- 5
  "condition",  -- 6
  "consequence",  -- 7
  "const",  -- 8
  "default",  -- 9
  "element",  -- 10
  "elif_condition",  -- 11
  "elif_statement",  -- 12
  "else_statement",  -- 13
  "exception_var",  -- 14
  "expression",  -- 15
  "flags",  -- 16
  "function",  -- 17
  "index",  -- 18
  "init",  -- 19
  "initializer",  -- 20
  "iter_item",  -- 21
  "iter_key",  -- 22
  "iter_value",  -- 23
  "kind",  -- 24
  "left",  -- 25
  "let",  -- 26
  "module",  -- 27
  "name",  -- 28
  "namespace",  -- 29
  "object",  -- 30
  "operator",  -- 31
  "optional_chain",  -- 32
  "param",  -- 33
  "pattern",  -- 34
  "property",  -- 35
  "right",  -- 36
  "shorthand",  -- 37
  "spread",  -- 38
  "spread_param",  -- 39
  "statement",  -- 40
  "step",  -- 41
  "string",  -- 42
  "symbol",  -- 43
  "try",  -- 44
  "value"  -- 45
]

/-- The number of fields. -/
def count : Nat := 45

/-- The name of a field. -/
def name? (f : Field) : Option String := if f = 0 then none else names[f - 1]?

/-- The field of a name. -/
def ofName? (s : String) : Option Field := (names.toList.findIdx? (· == s)).map (· + 1)

end Field
end Ucode

import Ucode.Catalogue.Entry

/-!
# The kinds of nodes in a source

The entries of the catalogue: the rules with their fields, and the tokens.
-/
namespace Ucode.Catalogue

open NodeKind (node)

/-- The kinds of nodes that are an expression by themselves. -/
def operands : Kinds := [
  node "array", node "assignment_expression", node "augmented_assignment_expression",
  node "binary_expression", node "call_expression", node "delete_expression", node "double", node "false",
  node "function_expression", node "lambda_expression", node "member_access", node "null", node "number",
  node "object", node "regex", node "sequence_expression", node "string", node "subscript_access",
  node "template_string", node "ternary_expression", node "this", node "true", node "unary_expression",
  node "update_expression", node "variable"]

/-- What an expression can consist of, parentheses included. -/
def expressions : Kinds := operands.and [.text "(", .text ")"]

/-- What can stand where a statement does: also text, and the tags around it. -/
def statements : Kinds := [
  node "block", node "break_statement", node "continue_statement", node "export_statement",
  node "expression_block", node "expression_statement", node "for_statement", node "function_declaration",
  node "if_statement", node "import_statement", node "raw_comment", node "raw_text",
  node "return_statement", node "statement_tag_close", node "statement_tag_open", node "switch_statement",
  node "try_statement", node "variable_declaration", node "while_statement"]

/-- The rules. -/
def rules : List Rule := [
  .plain "_function_name" [],
  .plain "_function_param" [],
  .plain "_function_spread_param" [],
  .plain "_lambda_param" [],
  .plain "_lambda_spread_param" [],
  .plain "_property_shorthand" [],
  .plain "_variable_name" [],
  .plain "array" [("element", .several (expressions.and [.text ",", .text "..."])),
    ("spread", .several expressions)],
  .plain "assignment_expression" [("left", .one [node "member_access", node "subscript_access",
    node "variable"]),
    ("right", .atLeastOne expressions)],
  .plain "augmented_assignment_expression" [("left", .one [node "member_access", node "subscript_access",
    node "variable"]),
    ("operator", .one [node "_operator"]),
    ("right", .atLeastOne expressions)],
  .plain "binary_expression" [("left", .atLeastOne expressions),
    ("operator", .one [node "_operator"]),
    ("right", .atLeastOne expressions)],
  .plain "block" [("statement", .several statements)],
  .plain "call_expression" [("argument", .atLeastOne (expressions.and [.text ",", .text "..."])),
    ("function", .atLeastOne expressions),
    ("optional_chain", .optional [node "optional_chain"]),
    ("spread", .several expressions)],
  .plain "delete_expression" [("argument", .atLeastOne expressions)],
  .plain "exception_variable" [],
  .plain "export_alias" [],
  .plain "export_const" [("initializer", .atLeastOne expressions),
    ("kind", .one [node "_variable_kind"]),
    ("name", .atLeastOne [node "_variable_name"])],
  .plain "export_function" [("name", .one [node "_function_name"]),
    ("param", .several [node "_function_param"]),
    ("spread_param", .optional [node "_function_spread_param"]),
    ("statement", .several statements)],
  .plain "export_item" [("alias", .optional [node "export_alias"]),
    ("default", .optional [node "export_alias"]),
    ("name", .one [node "export_name"])],
  .plain "export_let" [("initializer", .several expressions),
    ("kind", .one [node "_variable_kind"]),
    ("name", .atLeastOne [node "_variable_name"])],
  .plain "export_name" [],
  .plain "export_statement" [("const", .optional [node "export_const"]),
    ("default", .several expressions),
    ("function", .optional [node "export_function"]),
    ("let", .optional [node "export_let"]),
    ("symbol", .several [node "export_item"])],
  ⟨"expression_block", false, [], (some (.atLeastOne (operands.and [node "expression_tag_close",
    node "expression_tag_open"])))⟩,
  ⟨"expression_statement", false, [], (some (.atLeastOne (operands.and [node "statement_tag_close",
    node "statement_tag_open"])))⟩,
  .plain "for_statement" [("condition", .several expressions),
    ("init", .several (expressions.and [node "variable_declaration"])),
    ("iter_item", .optional [node "_variable_name"]),
    ("iter_key", .optional [node "_variable_name"]),
    ("iter_value", .optional [node "_variable_name"]),
    ("kind", .optional [node "_variable_kind"]),
    ("statement", .several statements),
    ("step", .several expressions),
    ("value", .several expressions)],
  .plain "function_declaration" [("name", .one [node "_function_name"]),
    ("param", .several [node "_function_param"]),
    ("spread_param", .optional [node "_function_spread_param"]),
    ("statement", .several statements)],
  .plain "function_expression" [("name", .optional [node "_function_name"]),
    ("param", .several [node "_function_param"]),
    ("spread_param", .optional [node "_function_spread_param"]),
    ("statement", .several statements)],
  .plain "identifier" [],
  .plain "if_statement" [("condition", .atLeastOne expressions),
    ("elif_condition", .several expressions),
    ("elif_statement", .several statements),
    ("else_statement", .several (statements.and [.text "else"])),
    ("statement", .several statements)],
  .plain "import_item" [("alias", .optional [node "import_name"]),
    ("default", .optional [node "import_name"]),
    ("name", .optional [node "import_symbol"])],
  .plain "import_name" [],
  .plain "import_statement" [("default", .optional [node "import_name"]),
    ("module", .one [node "string"]),
    ("namespace", .optional [node "import_name"]),
    ("symbol", .several [node "import_item"])],
  .plain "import_symbol" [],
  .plain "lambda_expression" [("expression", .several expressions),
    ("param", .several [node "_lambda_param"]),
    ("spread_param", .optional [node "_lambda_spread_param"]),
    ("statement", .optional [node "block"])],
  ⟨"markup", true, [], (some (.several (statements.and [node "hash_bang_line"])))⟩,
  .plain "member_access" [("object", .atLeastOne expressions),
    ("optional_chain", .optional [node "optional_chain"]),
    ("property", .one [node "identifier"])],
  .plain "object" [("property", .several [.text ",", node "object_property"])],
  .plain "object_property" [("name", .several (expressions.and [node "identifier"])),
    ("shorthand", .optional [node "_property_shorthand"]),
    ("spread", .several expressions),
    ("value", .several expressions)],
  .plain "regex" [("flags", .one [node "regex_flags"]),
    ("pattern", .one [node "regex_pattern"])],
  ⟨"return_statement", false, [("value", .several expressions)], (some (.optional
    [node "statement_tag_close", node "statement_tag_open"]))⟩,
  .plain "sequence_expression" [("expression", .atLeastOne expressions)],
  .plain "subscript_access" [("index", .atLeastOne expressions),
    ("object", .atLeastOne expressions),
    ("optional_chain", .optional [node "optional_chain"])],
  .plain "switch_case" [("expression", .atLeastOne expressions),
    ("statement", .several statements)],
  .plain "switch_default" [("statement", .several statements)],
  .plain "switch_statement" [("case", .several [node "switch_case"]),
    ("default", .several [node "switch_default"]),
    ("expression", .atLeastOne expressions)],
  ⟨"template_string", false, [("expression", .several expressions),
    ("string", .atLeastOne [node "template"])], (some (.several [node "placeholder_close",
      node "placeholder_open"]))⟩,
  .plain "ternary_expression" [("alternative", .atLeastOne expressions),
    ("condition", .atLeastOne expressions),
    ("consequence", .atLeastOne expressions)],
  .plain "try_statement" [("catch", .several statements),
    ("exception_var", .optional [node "exception_variable"]),
    ("try", .several statements)],
  .plain "unary_expression" [("argument", .atLeastOne expressions),
    ("operator", .one [node "_operator"])],
  .plain "update_expression" [("argument", .atLeastOne expressions),
    ("operator", .one [node "_operator"])],
  .plain "variable" [],
  ⟨"variable_declaration", false, [("initializer", .several expressions),
    ("kind", .one [node "_variable_kind"]),
    ("name", .atLeastOne [node "_variable_name"])], (some (.optional [node "statement_tag_close",
      node "statement_tag_open"]))⟩,
  .plain "while_statement" [("condition", .atLeastOne expressions),
    ("statement", .several statements)]]

/-- The tokens. -/
def tokens : List NodeKind := [
  .text "(", .text ")", .text "*", .text ",", .text ".", .text "...", .text ":", .text ";", .text "=",
  .text "=>", .text "?", .text "[", .text "]", node "_operator", node "_variable_kind", .text "as",
  node "break_statement", .text "case", .text "catch", node "comment", node "continue_statement",
  .text "default", .text "delete", node "double", .text "elif", .text "else", .text "endfor",
  .text "endfunction", .text "endif", .text "endwhile", .text "export", node "expression_tag_close",
  node "expression_tag_open", node "false", .text "for", .text "from", .text "function",
  node "hash_bang_line", .text "if", .text "import", .text "in", node "null", node "number",
  node "optional_chain", node "placeholder_close", node "placeholder_open", node "raw_comment",
  node "raw_text", node "regex_flags", node "regex_pattern", .text "return", node "statement_tag_close",
  node "statement_tag_open", node "string", .text "switch", node "template", node "this", node "true",
  .text "try", .text "while", .text "\x7b", .text "\x7d"]

/-- The catalogue as it is published. -/
def text : String := (toJson rules tokens).lay

end Ucode.Catalogue

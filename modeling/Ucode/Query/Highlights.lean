import Ucode.Query.Pattern

/-!
# The query for highlighting

It names every node that an editor shows in a colour of its own.
-/
namespace Ucode.Query

open NodeKind (node text)

/-- The query that tells how to colour a source. -/
def highlights : Query := ⟨
  [
    ⟨"Template markup", [
      [.one (node "raw_text") "none",
       .one (node "raw_comment") "comment",
       .one (node "comment") "comment",
       .one (node "hash_bang_line") "keyword.directive"],
      [.anyOf [node "expression_tag_open", node "expression_tag_close", node "statement_tag_open",
         node "statement_tag_close"] "tag.delimiter"],
      [.anyOf [node "placeholder_open", node "placeholder_close"] "punctuation.special"]]⟩,
    ⟨"Literals", [
      [.one (node "string") "string",
       .one (node "template") "string",
       .one (node "regex_pattern") "string.regexp",
       .one (node "regex_flags") "character.special",
       .one (node "number") "number",
       .one (node "double") "number.float"],
      [.anyOf [node "true", node "false"] "boolean"],
      [.one (node "null") "constant.builtin",
       .one (node "this") "variable.builtin"]]⟩,
    ⟨"Declarations", [
      [.within "function_declaration" "name" "_function_name" "function"],
      [.within "function_expression" "name" "_function_name" "function"],
      [.anyOf [node "_function_param", node "_function_spread_param", node "_lambda_param",
         node "_lambda_spread_param", node "exception_variable"] "variable.parameter"],
      [.one (node "_variable_name") "variable",
       .one (node "_variable_kind") "keyword"],
      [.one (node "import_symbol") "variable",
       .one (node "import_name") "variable",
       .one (node "export_name") "variable",
       .one (node "export_alias") "variable"]]⟩,
    ⟨"Expressions", [
      [.one (node "variable") "variable"],
      [.within "call_expression" "function" "variable" "function.call"],
      [⟨[node "call_expression"], [("function", node "member_access"), ("property", node "identifier")],
         "function.method.call"⟩],
      [.within "member_access" "property" "identifier" "property"],
      [.within "object_property" "name" "identifier" "property"],
      [.one (node "_property_shorthand") "property"],
      [.one (node "_operator") "operator"],
      [.anyOf [text "=", text "=>", text "..."] "operator"],
      [.one (node "optional_chain") "punctuation.delimiter"],
      [.anyOf [text ";", text ",", text ".", text ":"] "punctuation.delimiter"],
      [.anyOf [text "(", text ")", text "[", text "]", text "\x7b", text "\x7d"] "punctuation.bracket"]]⟩,
    ⟨"Keywords", [
      [.anyOf [text "if", text "elif", text "else", text "endif", text "switch", text "case",
         text "default"] "keyword.conditional"],
      [.anyOf [text "for", text "endfor", text "while", text "endwhile", node "break_statement",
         node "continue_statement"] "keyword.repeat"],
      [.anyOf [text "function", text "endfunction"] "keyword.function"],
      [.one (text "return") "keyword.return"],
      [.anyOf [text "try", text "catch"] "keyword.exception"],
      [.anyOf [text "import", text "export", text "from", text "as"] "keyword.import"],
      [.anyOf [text "in", text "delete"] "keyword.operator"]]⟩]⟩

end Ucode.Query

/-!
# Symbols

The grammar's symbols are numbered: first the tokens, then the other symbols of its rules, then the aliases
under which a rule lets a symbol appear. `Symbol.kind` is the kind that a node of the symbol has. Two
symbols stand outside the table, for what is read in error.
-/
namespace Ucode

/-- The number of a symbol. -/
abbrev Symbol := Nat

/-- How nodes of a symbol take part in a tree. -/
inductive Visibility where
  /-- A named node. -/
  | named
  /-- A node without a name of its own, such as an operator. -/
  | anonymous
  /-- A rule that only groups nodes. -/
  | hidden
  /-- A group that stands for a repetition in a rule. -/
  | auxiliary
  deriving DecidableEq, Repr, Inhabited

namespace Visibility

/-- Whether the nodes are shown. -/
def isVisible : Visibility → Bool
  | named | anonymous => true
  | hidden | auxiliary => false

/-- Whether there is a name, shown or not. -/
def isNamed : Visibility → Bool
  | named | hidden => true
  | anonymous | auxiliary => false

end Visibility

/-- What is known of a symbol. -/
structure SymbolInfo where
  kind : String
  visibility : Visibility
  /-- The first symbol that has the same kind, which stands for all of them in queries. -/
  representative : Symbol
  deriving Repr, Inhabited

namespace Symbol

/-- The end of the text. -/
def finish : Symbol := 0

/-- A word that can be a name or a keyword. -/
def word : Symbol := 1

/-- What could not be read. -/
def error : Symbol := 65535

/-- A hidden group of tokens skipped in error. -/
def errorRepeat : Symbol := 65534

/-- Whether a symbol stands outside the table. -/
def isSpecial (s : Symbol) : Bool := s == error || s == errorRepeat

/-- Symbols below this number are tokens. -/
def tokenCount : Nat := 105

/-- Symbols below this number take part in rules; those from it on are aliases. -/
def ruleCount : Nat := 189

/-- Symbols below this number have a kind. -/
def kindCount : Nat := 204

/-- The symbols by number. -/
def table : Array SymbolInfo := #[
  ⟨"end", .hidden, 0⟩,  -- 0
  ⟨"_identifier_pattern", .hidden, 1⟩,  -- 1
  ⟨"hash_bang_line", .named, 2⟩,  -- 2
  ⟨"return", .anonymous, 3⟩,  -- 3
  ⟨"break_statement", .named, 4⟩,  -- 4
  ⟨"continue_statement", .named, 5⟩,  -- 5
  ⟨"_variable_kind", .named, 6⟩,  -- 6
  ⟨"=", .anonymous, 7⟩,  -- 7
  ⟨",", .anonymous, 8⟩,  -- 8
  ⟨"_variable_kind", .named, 6⟩,  -- 9
  ⟨"if", .anonymous, 10⟩,  -- 10
  ⟨"else", .anonymous, 11⟩,  -- 11
  ⟨":", .anonymous, 12⟩,  -- 12
  ⟨"elif", .anonymous, 13⟩,  -- 13
  ⟨"endif", .anonymous, 14⟩,  -- 14
  ⟨"while", .anonymous, 15⟩,  -- 15
  ⟨"endwhile", .anonymous, 16⟩,  -- 16
  ⟨"in", .anonymous, 17⟩,  -- 17
  ⟨";", .anonymous, 18⟩,  -- 18
  ⟨"for", .anonymous, 19⟩,  -- 19
  ⟨"(", .anonymous, 20⟩,  -- 20
  ⟨")", .anonymous, 21⟩,  -- 21
  ⟨"endfor", .anonymous, 22⟩,  -- 22
  ⟨"...", .anonymous, 23⟩,  -- 23
  ⟨"function", .anonymous, 24⟩,  -- 24
  ⟨"endfunction", .anonymous, 25⟩,  -- 25
  ⟨"\x7b", .anonymous, 26⟩,  -- 26
  ⟨"\x7d", .anonymous, 27⟩,  -- 27
  ⟨"case", .anonymous, 28⟩,  -- 28
  ⟨"default", .anonymous, 29⟩,  -- 29
  ⟨"switch", .anonymous, 30⟩,  -- 30
  ⟨"try", .anonymous, 31⟩,  -- 31
  ⟨"catch", .anonymous, 32⟩,  -- 32
  ⟨"as", .anonymous, 33⟩,  -- 33
  ⟨"*", .anonymous, 34⟩,  -- 34
  ⟨"import", .anonymous, 35⟩,  -- 35
  ⟨"from", .anonymous, 36⟩,  -- 36
  ⟨"export", .anonymous, 37⟩,  -- 37
  ⟨"regex_flags", .named, 38⟩,  -- 38
  ⟨"true", .named, 39⟩,  -- 39
  ⟨"false", .named, 40⟩,  -- 40
  ⟨"null", .named, 41⟩,  -- 41
  ⟨"this", .named, 42⟩,  -- 42
  ⟨"_operator", .named, 43⟩,  -- 43
  ⟨"_operator", .named, 43⟩,  -- 44
  ⟨"_operator", .named, 43⟩,  -- 45
  ⟨"_operator", .named, 43⟩,  -- 46
  ⟨"_operator", .named, 43⟩,  -- 47
  ⟨"_operator", .named, 43⟩,  -- 48
  ⟨"_operator", .named, 43⟩,  -- 49
  ⟨"_operator", .named, 43⟩,  -- 50
  ⟨"_operator", .named, 43⟩,  -- 51
  ⟨"_operator", .named, 43⟩,  -- 52
  ⟨"_operator", .named, 43⟩,  -- 53
  ⟨"_operator", .named, 43⟩,  -- 54
  ⟨"_operator", .named, 43⟩,  -- 55
  ⟨"_operator", .named, 43⟩,  -- 56
  ⟨"optional_chain", .named, 57⟩,  -- 57
  ⟨"[", .anonymous, 58⟩,  -- 58
  ⟨"]", .anonymous, 59⟩,  -- 59
  ⟨".", .anonymous, 60⟩,  -- 60
  ⟨"?", .anonymous, 61⟩,  -- 61
  ⟨"_operator", .named, 43⟩,  -- 62
  ⟨"_operator", .named, 43⟩,  -- 63
  ⟨"_operator", .named, 43⟩,  -- 64
  ⟨"_operator", .named, 43⟩,  -- 65
  ⟨"_operator", .named, 43⟩,  -- 66
  ⟨"_operator", .named, 43⟩,  -- 67
  ⟨"_operator", .named, 43⟩,  -- 68
  ⟨"_operator", .named, 43⟩,  -- 69
  ⟨"_operator", .named, 43⟩,  -- 70
  ⟨"_operator", .named, 43⟩,  -- 71
  ⟨"_operator", .named, 43⟩,  -- 72
  ⟨"_operator", .named, 43⟩,  -- 73
  ⟨"_operator", .named, 43⟩,  -- 74
  ⟨"_operator", .named, 43⟩,  -- 75
  ⟨"_operator", .named, 43⟩,  -- 76
  ⟨"_operator", .named, 43⟩,  -- 77
  ⟨"_operator", .named, 43⟩,  -- 78
  ⟨"_operator", .named, 43⟩,  -- 79
  ⟨"_operator", .named, 43⟩,  -- 80
  ⟨"_operator", .named, 43⟩,  -- 81
  ⟨"_operator", .named, 43⟩,  -- 82
  ⟨"_operator", .named, 43⟩,  -- 83
  ⟨"_operator", .named, 43⟩,  -- 84
  ⟨"_operator", .named, 43⟩,  -- 85
  ⟨"_operator", .named, 43⟩,  -- 86
  ⟨"delete", .anonymous, 87⟩,  -- 87
  ⟨"=>", .anonymous, 88⟩,  -- 88
  ⟨"comment", .named, 89⟩,  -- 89
  ⟨"raw_text", .named, 90⟩,  -- 90
  ⟨"raw_comment", .named, 91⟩,  -- 91
  ⟨"string", .named, 92⟩,  -- 92
  ⟨"template", .named, 93⟩,  -- 93
  ⟨"regex_pattern", .named, 94⟩,  -- 94
  ⟨"number", .named, 95⟩,  -- 95
  ⟨"double", .named, 96⟩,  -- 96
  ⟨"expression_tag_open", .named, 97⟩,  -- 97
  ⟨"expression_tag_close", .named, 98⟩,  -- 98
  ⟨"placeholder_open", .named, 99⟩,  -- 99
  ⟨"placeholder_close", .named, 100⟩,  -- 100
  ⟨"_optional_semicolon", .hidden, 101⟩,  -- 101
  ⟨"statement_tag_open", .named, 102⟩,  -- 102
  ⟨"statement_tag_close", .named, 103⟩,  -- 103
  ⟨"error", .named, 104⟩,  -- 104
  ⟨"markup", .named, 105⟩,  -- 105
  ⟨"_eos", .hidden, 106⟩,  -- 106
  ⟨"_code_statement", .hidden, 107⟩,  -- 107
  ⟨"_statement", .hidden, 108⟩,  -- 108
  ⟨"_statements", .auxiliary, 109⟩,  -- 109
  ⟨"expression_block", .named, 110⟩,  -- 110
  ⟨"expression_statement", .named, 111⟩,  -- 111
  ⟨"_empty_statement", .hidden, 112⟩,  -- 112
  ⟨"return_statement", .named, 113⟩,  -- 113
  ⟨"_variable_declaration_const", .hidden, 114⟩,  -- 114
  ⟨"_variable_declaration_let", .hidden, 115⟩,  -- 115
  ⟨"variable_declaration", .named, 116⟩,  -- 116
  ⟨"_if_statement_normal", .hidden, 117⟩,  -- 117
  ⟨"_if_statement_alt", .hidden, 118⟩,  -- 118
  ⟨"if_statement", .named, 119⟩,  -- 119
  ⟨"_while_statement_alt", .hidden, 120⟩,  -- 120
  ⟨"_while_statement_normal", .hidden, 121⟩,  -- 121
  ⟨"while_statement", .named, 122⟩,  -- 122
  ⟨"_for_header_in", .hidden, 123⟩,  -- 123
  ⟨"_for_header_count", .hidden, 124⟩,  -- 124
  ⟨"_for_header", .hidden, 125⟩,  -- 125
  ⟨"_for_statement_alt", .hidden, 126⟩,  -- 126
  ⟨"_for_statement_normal", .hidden, 127⟩,  -- 127
  ⟨"for_statement", .named, 128⟩,  -- 128
  ⟨"_function_params", .hidden, 129⟩,  -- 129
  ⟨"_function_declaration_alt", .hidden, 130⟩,  -- 130
  ⟨"_function_declaration_normal", .hidden, 131⟩,  -- 131
  ⟨"function_declaration", .named, 132⟩,  -- 132
  ⟨"switch_case", .named, 133⟩,  -- 133
  ⟨"switch_default", .named, 134⟩,  -- 134
  ⟨"switch_statement", .named, 135⟩,  -- 135
  ⟨"try_statement", .named, 136⟩,  -- 136
  ⟨"import_item", .named, 137⟩,  -- 137
  ⟨"_import_list", .hidden, 138⟩,  -- 138
  ⟨"_import_namespace", .hidden, 139⟩,  -- 139
  ⟨"_import_default", .hidden, 140⟩,  -- 140
  ⟨"import_statement", .named, 141⟩,  -- 141
  ⟨"export_item", .named, 142⟩,  -- 142
  ⟨"_export_list", .hidden, 143⟩,  -- 143
  ⟨"export_statement", .named, 144⟩,  -- 144
  ⟨"block", .named, 145⟩,  -- 145
  ⟨"_expression", .hidden, 146⟩,  -- 146
  ⟨"regex", .named, 147⟩,  -- 147
  ⟨"_primary_expression", .hidden, 148⟩,  -- 148
  ⟨"template_string", .named, 149⟩,  -- 149
  ⟨"assignment_expression", .named, 150⟩,  -- 150
  ⟨"augmented_assignment_expression", .named, 151⟩,  -- 151
  ⟨"subscript_access", .named, 152⟩,  -- 152
  ⟨"member_access", .named, 153⟩,  -- 153
  ⟨"_lhs_expression", .hidden, 154⟩,  -- 154
  ⟨"ternary_expression", .named, 155⟩,  -- 155
  ⟨"binary_expression", .named, 156⟩,  -- 156
  ⟨"unary_expression", .named, 157⟩,  -- 157
  ⟨"update_expression", .named, 158⟩,  -- 158
  ⟨"delete_expression", .named, 159⟩,  -- 159
  ⟨"_arguments", .hidden, 160⟩,  -- 160
  ⟨"call_expression", .named, 161⟩,  -- 161
  ⟨"array", .named, 162⟩,  -- 162
  ⟨"_spread_expression", .hidden, 163⟩,  -- 163
  ⟨"_array_element", .hidden, 164⟩,  -- 164
  ⟨"object", .named, 165⟩,  -- 165
  ⟨"object_property", .named, 166⟩,  -- 166
  ⟨"_lambda_params", .hidden, 167⟩,  -- 167
  ⟨"lambda_expression", .named, 168⟩,  -- 168
  ⟨"function_expression", .named, 169⟩,  -- 169
  ⟨"sequence_expression", .named, 170⟩,  -- 170
  ⟨"_expressions", .hidden, 171⟩,  -- 171
  ⟨"_parenthesized_expression", .hidden, 172⟩,  -- 172
  ⟨"identifier", .named, 173⟩,  -- 173
  ⟨"_variable_name", .named, 174⟩,  -- 174
  ⟨"markup_repeat1", .auxiliary, 175⟩,  -- 175
  ⟨"_variable_declaration_const_repeat1", .auxiliary, 176⟩,  -- 176
  ⟨"_variable_declaration_let_repeat1", .auxiliary, 177⟩,  -- 177
  ⟨"_if_statement_alt_repeat1", .auxiliary, 178⟩,  -- 178
  ⟨"_function_params_repeat1", .auxiliary, 179⟩,  -- 179
  ⟨"switch_statement_repeat1", .auxiliary, 180⟩,  -- 180
  ⟨"_import_list_repeat1", .auxiliary, 181⟩,  -- 181
  ⟨"_export_list_repeat1", .auxiliary, 182⟩,  -- 182
  ⟨"template_string_repeat1", .auxiliary, 183⟩,  -- 183
  ⟨"_arguments_repeat1", .auxiliary, 184⟩,  -- 184
  ⟨"array_repeat1", .auxiliary, 185⟩,  -- 185
  ⟨"object_repeat1", .auxiliary, 186⟩,  -- 186
  ⟨"_lambda_params_repeat1", .auxiliary, 187⟩,  -- 187
  ⟨"sequence_expression_repeat1", .auxiliary, 188⟩,  -- 188
  ⟨"_function_name", .named, 189⟩,  -- 189
  ⟨"_function_param", .named, 190⟩,  -- 190
  ⟨"_function_spread_param", .named, 191⟩,  -- 191
  ⟨"_lambda_param", .named, 192⟩,  -- 192
  ⟨"_lambda_spread_param", .named, 193⟩,  -- 193
  ⟨"_property_shorthand", .named, 194⟩,  -- 194
  ⟨"exception_variable", .named, 195⟩,  -- 195
  ⟨"export_alias", .named, 196⟩,  -- 196
  ⟨"export_const", .named, 197⟩,  -- 197
  ⟨"export_function", .named, 198⟩,  -- 198
  ⟨"export_let", .named, 199⟩,  -- 199
  ⟨"export_name", .named, 200⟩,  -- 200
  ⟨"import_name", .named, 201⟩,  -- 201
  ⟨"import_symbol", .named, 202⟩,  -- 202
  ⟨"variable", .named, 203⟩  -- 203
]

/-- What is known of a symbol, also of one outside the table. -/
def info (s : Symbol) : SymbolInfo :=
  if s = error then ⟨"ERROR", .named, error⟩
  else if s = errorRepeat then ⟨"_ERROR", .auxiliary, errorRepeat⟩
  else table.getD s ⟨"", .auxiliary, s⟩

/-- The kind of the symbol's nodes. -/
def kind (s : Symbol) : String := s.info.kind

/-- How visible each symbol of the table is, without its kind. -/
def visibilities : Array Visibility := table.map (·.visibility)

/-- How visible the nodes of a symbol are. -/
def visibility (s : Symbol) : Visibility :=
  if s = error then .named else visibilities.getD s .auxiliary

/-- Whether the nodes of a symbol are shown. -/
def isVisible (s : Symbol) : Bool := s.visibility.isVisible

/-- Whether a symbol has a name. A hidden rule has one. -/
def isNamed (s : Symbol) : Bool := s.visibility.isNamed

/-- The nodes of the symbol are shown, and under a name. A hidden rule has a name and no nodes. -/
def hasNamedNodes (s : Symbol) : Bool := s.isVisible && s.isNamed

end Symbol
end Ucode

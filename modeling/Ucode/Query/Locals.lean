import Ucode.Query.Pattern

/-!
# The query for local names

It names the scopes of a source, the definitions in them and the references to what is defined.
-/
namespace Ucode.Query

open NodeKind (node text)

/-- The query that tells where names are defined and used. -/
def locals : Query := ⟨
  [
    ⟨"Scopes", [
      [.anyOf [node "markup", node "block", node "function_declaration", node "function_expression",
         node "lambda_expression", node "for_statement", node "try_statement"] "local.scope"]]⟩,
    ⟨"Definitions", [
      [.within "variable_declaration" "name" "_variable_name" "local.definition.var"],
      [.within "export_const" "name" "_variable_name" "local.definition.var"],
      [.within "for_statement" "iter_item" "_variable_name" "local.definition.var"],
      [.within "for_statement" "iter_key" "_variable_name" "local.definition.var"],
      [.within "for_statement" "iter_value" "_variable_name" "local.definition.var"],
      [.within "function_declaration" "name" "_function_name" "local.definition.function"],
      [.anyOf [node "_function_param", node "_function_spread_param", node "_lambda_param",
         node "_lambda_spread_param", node "exception_variable"] "local.definition.parameter"],
      [.within "import_item" "alias" "import_name" "local.definition.import"],
      [.within "import_statement" "default" "import_name" "local.definition.import"],
      [.within "import_statement" "namespace" "import_name" "local.definition.import"]]⟩,
    ⟨"References", [
      [.one (node "variable") "local.reference"]]⟩]⟩

/-- The query for other languages inside a source. There are none. -/
def injections : Query := ⟨[]⟩

end Ucode.Query

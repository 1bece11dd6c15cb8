import Ucode.Grammar.NodeKind
import Ucode.Text.Json

/-!
# The catalogue of node kinds

The catalogue tells which kinds of nodes a tree can have and what the nodes of each kind can hold. It is published
as JSON.
-/
namespace Ucode.Catalogue

/-- Kinds in the order of their names. -/
abbrev Kinds := List NodeKind

namespace Kinds

/-- A kind is put behind those whose names are not greater. -/
def insert (kind : NodeKind) : Kinds → Kinds
  | [] => [kind]
  | first :: others => if first.name ≤ kind.name then first :: insert kind others else kind :: first :: others

/-- Some kinds and some more of them. -/
def and (kinds more : Kinds) : Kinds := more.foldl (fun kinds kind => insert kind kinds) kinds

end Kinds

/-- What can stand in a field, or outside of all fields. -/
structure Slot where
  /-- There can be more than one node. -/
  multiple : Bool
  /-- There is at least one node. -/
  required : Bool
  kinds : Kinds

namespace Slot

/-- Exactly one node. -/
def one (kinds : Kinds) : Slot := ⟨false, true, kinds⟩

/-- At most one node. -/
def optional (kinds : Kinds) : Slot := ⟨false, false, kinds⟩

/-- Any number of nodes. -/
def several (kinds : Kinds) : Slot := ⟨true, false, kinds⟩

/-- One node or more. -/
def atLeastOne (kinds : Kinds) : Slot := ⟨true, true, kinds⟩

end Slot

/-- A kind of nodes that hold others. -/
structure Rule where
  name : String
  /-- The kind of the node over a whole source. -/
  isRoot : Bool
  fields : List (String × Slot)
  /-- What can stand outside of the fields. -/
  others : Option Slot

/-- A rule whose parts are all in fields. -/
def Rule.plain (name : String) (fields : List (String × Slot)) : Rule := ⟨name, false, fields, none⟩

/-- The two fields that tell a kind. -/
def kindFields (kind : NodeKind) : List (String × Json) :=
  [("type", .string kind.name), ("named", .bool kind.named)]

/-- A slot as it is published. -/
def Slot.toJson (s : Slot) : Json :=
  .object [("multiple", .bool s.multiple), ("required", .bool s.required),
    ("types", .array (s.kinds.map (fun kind => .object (kindFields kind))))]

/-- A rule as it is published. -/
def Rule.toJson (r : Rule) : Json :=
  .object (kindFields (.node r.name) ++ (if r.isRoot then [("root", .bool true)] else []) ++
    [("fields", .object (r.fields.map (fun (name, slot) => (name, slot.toJson))))] ++
    (r.others.elim [] (fun slot => [("children", slot.toJson)])))

/-- The catalogue of some rules and tokens. -/
def toJson (rules : List Rule) (tokens : List NodeKind) : Json :=
  .array (rules.map Rule.toJson ++ tokens.map (fun kind => .object (kindFields kind)))

end Ucode.Catalogue

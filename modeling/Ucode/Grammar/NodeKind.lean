import Ucode.Grammar.Symbol

/-!
# Kinds of nodes

The kind of a node is its name and whether the name is that of a rule or token of the grammar. Other nodes are
called by their own text, and their kinds are written in quotes.
-/
namespace Ucode

/-- What kind of node a symbol makes. -/
structure NodeKind where
  name : String
  named : Bool
  deriving DecidableEq, Repr

namespace NodeKind

/-- A kind of named nodes. -/
def node (name : String) : NodeKind := ⟨name, true⟩

/-- A kind of nodes that are called by their text. -/
def text (name : String) : NodeKind := ⟨name, false⟩

/-- The mark before the name in a pattern. -/
def opening (k : NodeKind) : String := (if k.named then "(" else "\"") ++ k.name

/-- The mark behind the name in a pattern. -/
def closing (k : NodeKind) : String := if k.named then ")" else "\""

/-- Every beginning of the word ERROR stands for errors. -/
def namesError (k : NodeKind) : Bool := k.name.toList.isPrefixOf "ERROR".toList

/-- The symbol that stands for a kind, or the end of the text if there is no such kind. -/
def symbol (k : NodeKind) : Symbol :=
  if k.namesError then Symbol.error
  else
    match Symbol.table.find? (fun i => i.visibility.isVisible && i.visibility.isNamed == k.named && i.kind == k.name) with
    | some i => i.representative
    | none => Symbol.finish

end NodeKind

/-- The kind of a symbol's nodes. -/
def Symbol.nodeKind (s : Symbol) : NodeKind := ⟨s.kind, s.isNamed⟩

end Ucode

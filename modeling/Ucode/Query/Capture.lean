import Ucode.Query.Pattern
import Ucode.Tree.Outline

/-!
# What a query finds

Every node that fits the first part of a pattern starts a search for the rest among its children, in their order. The
search goes on as long as a later child can be in the field that it looks for.
-/
namespace Ucode

namespace NodeInfo

/-- The field that a search sees a node in: the nearest one of its steps, extras aside. Tells also whether
a later part of the rules it is in can be in the same field. -/
def searchField (n : NodeInfo) : Option Field × Bool :=
  n.steps.foldl (fun (field, later) step =>
    if step.extra then (field, later)
    else
      let production := Production.get step.production
      let field := field <|> production.field? step.part
      (field, later || field.any (production.hasLater · step.part))) (none, false)

/-- Whether a node is of a kind. -/
def isOf (n : NodeInfo) (kind : NodeKind) : Bool := n.symbol.nodeKind == kind

end NodeInfo

namespace Query

/-- A node that a pattern gives a name to. -/
structure Capture where
  start : Nat
  stop : Nat
  /-- The number of the pattern. -/
  pattern : Nat
  name : String
  kind : String
  deriving DecidableEq, Repr

mutual
/-- The nodes at the end of a path that leads down from a node, itself if the path is empty. -/
def endsFrom (path : List (String × NodeKind)) (o : Outline) : List NodeInfo :=
  match path, o with
  | [], .node info _ => [info]
  | (field, kind) :: below, .node _ children => endsAmong field kind below children

/-- The nodes at the end of a path whose first step leads to one of some children. The search ends at a child after
which no later one can fit. -/
def endsAmong (field : String) (kind : NodeKind) (below : List (String × NodeKind)) :
    List Outline → List NodeInfo
  | [] => []
  | child :: others =>
    let (found, laterInField) := child.info.searchField
    let inField := found.bind Field.name? == some field
    let rest := if !inField || laterInField then endsAmong field kind below others else []
    if inField && child.info.isOf kind then endsFrom below child ++ rest else rest
end

/-- What a pattern finds at a node. No search starts at a node that ends where the text starts. -/
def Pattern.at (p : Pattern) (number : Nat) (o : Outline) : List Capture :=
  if 0 < o.info.stop.bytes && p.kinds.any o.info.isOf then
    (endsFrom p.path o).map (fun n => ⟨n.start.bytes, n.stop.bytes, number, p.capture, n.kind⟩)
  else []

mutual
/-- All nodes of an outline, added to a list. -/
def nodesInto (found : List Outline) : Outline → List Outline
  | .node info children => nodesAmong (.node info children :: found) children

/-- All nodes of some outlines, added to a list. -/
def nodesAmong (found : List Outline) : List Outline → List Outline
  | [] => found
  | o :: others => nodesAmong (nodesInto found o) others
end

namespace Capture

/-- The order in which captures are listed. -/
def le (a b : Capture) : Bool :=
  if a.start ≠ b.start then a.start < b.start
  else if a.stop ≠ b.stop then a.stop < b.stop
  else if a.pattern ≠ b.pattern then a.pattern < b.pattern
  else if a.name ≠ b.name then a.name < b.name
  else a.kind ≤ b.kind

end Capture

/-- Everything that a query finds in an outline, node by node. -/
def found (q : Query) (o : Outline) : List Capture :=
  let patterns := q.patterns.zipIdx
  (nodesInto [] o).flatMap (fun node => patterns.flatMap (fun (p, number) => p.at number node))

/-- Everything that a query finds in an outline, in order. -/
def captures (q : Query) (o : Outline) : List Capture := (q.found o).mergeSort Capture.le

/-- Ordering neither adds nor drops a capture. -/
theorem captures_perm (q : Query) (o : Outline) : (q.captures o).Perm (q.found o) :=
  List.mergeSort_perm _ _

end Query
end Ucode

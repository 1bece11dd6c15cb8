import Ucode.Parse.Stack.Basic

/-!
# Joining versions

Two versions that have reached the same state at the same place go on alike, so one of them takes over the links of
the other. Links with equivalent trees are joined in turn, and the vertices they lead to with them.
-/
namespace Ucode.Parse.Stack

/-- Whether one of two trees at the same place is enough. -/
def isEquivalent : Option Tree → Option Tree → Bool
  | none, none => true
  | some a, some b =>
    a.symbol == b.symbol &&
      ((0 < a.errorCost && 0 < b.errorCost) ||
        (a.padding.bytes == b.padding.bytes && a.size.bytes == b.size.bytes &&
          a.children.length == b.children.length && a.extra == b.extra && a.context == b.context))
  | _, _ => false

/-- Whether what follows two vertices is the same. -/
def isSamePlace (a b : Vertex) : Bool :=
  a.state == b.state && a.place.bytes == b.place.bytes && a.errorCost == b.errorCost

/-- What becomes of a new link beside those a vertex has. -/
inductive LinkPlan where
  /-- There is such a link already. -/
  | drop
  /-- The links of the new link's vertex go to this vertex. -/
  | mergeInto (vertex : Nat)
  | append

/-- Compares a new link with those of a vertex in their order. -/
def planLink (s : Stack) (link : Link) : List Link → LinkPlan
  | [] => .append
  | old :: others =>
    if isEquivalent old.tree link.tree then
      -- Equivalent trees over the same vertex are the same way down, and over vertices that go on alike these are joined.
      if old.target = link.target then .drop
      else if isSamePlace (s.vertex old.target) (s.vertex link.target) then .mergeInto old.target
      else planLink s link others
    else planLink s link others

/-- Runs a step for each index from `i` on, as long as there is a link with that index. -/
def forLinks (s : Stack) (source : Nat) (step : Stack → Link → Stack) : Nat → Nat → Stack
  | 0, _ => s
  | fuel + 1, i =>
    match (s.vertex source).links[i]? with
    | none => s
    | some link => forLinks (step s link) source step fuel (i + 1)

/-- Adds a link to a vertex. Where an equivalent link leads to a vertex at the same place, the vertices are joined
instead, down to a depth. -/
def addLink : Nat → Stack → Nat → Link → Stack
  | 0, s, _, _ => s
  | depth + 1, s, id, link =>
    if link.target = id then s
    else
      let v := s.vertex id
      match s.planLink link v.links with
      | .drop => s
      | .mergeInto old => forLinks s link.target (fun s l => addLink depth s old l) maxLinks 0
      | .append =>
        if v.links.length = maxLinks then s
        else
          let nodes := (s.vertex link.target).nodes + (link.tree.map nodesOf).getD 0
          let grown := { v with links := v.links ++ [link], nodes := max v.nodes nodes }
          { s with vertices := s.vertices.setIfInBounds id grown }

/-- Whether two versions go on in the same way. -/
def canMerge (s : Stack) (i j : Nat) : Bool :=
  s.isActive i && s.isActive j && isSamePlace (s.topOf i) (s.topOf j) &&
    (s.version i).context == (s.version j).context

/-- Joins the second of two versions to the first, if they go on in the same way. -/
def merge? (s : Stack) (i j : Nat) : Option Stack :=
  if s.canMerge i j then
    let id := (s.version i).top
    let depth := s.vertices.size
    let s := forLinks s (s.version j).top (fun s l => addLink depth s id l) maxLinks 0
    let v := s.vertex id
    let s := if v.state = Grammar.StateId.recovery then s.modifyVersion i ({ · with nodesAtError := v.nodes }) else s
    some (s.remove j)
  else none

/-- Joins a version to the first of some versions that go on in the same way. -/
def mergeFirst? (s : Stack) (candidates : List Nat) (j : Nat) : Option Stack :=
  candidates.findSome? (fun i => s.merge? i j)

end Ucode.Parse.Stack

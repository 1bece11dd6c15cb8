import Ucode.Tree.Basic

/-!
# Outlines

The outline of a tree holds its visible nodes only. A rule can let a part appear under an alias, so whether a node is
visible and what kind it has depends on the rule above it. Each node of an outline keeps the steps that lead
to it from the visible node above: they say to which field it belongs.
-/
namespace Ucode

/-- A step from a node of a tree to one of its parts. -/
structure Step where
  production : Nat
  part : Nat
  extra : Bool
  deriving DecidableEq, Repr

/-- A visible node of a tree. -/
structure NodeInfo where
  /-- The symbol that the node appears as. -/
  symbol : Symbol
  start : Extent
  stop : Extent
  /-- Whether it was put in where a token is missing. -/
  isMissing : Bool
  isExtra : Bool
  /-- Whether it is an error or a missing node, or holds one. -/
  hasError : Bool
  /-- The steps from the visible node above it, the last one first. -/
  steps : List Step
  deriving Repr

namespace NodeInfo

def kind (n : NodeInfo) : String := n.symbol.kind

def isNamed (n : NodeInfo) : Bool := n.symbol.isNamed

def isError (n : NodeInfo) : Bool := n.symbol == Symbol.error

/-- The field that a row of steps leads through: the nearest one, unless there is an extra before it. -/
def fieldAlong : List Step → Option Field
  | [] => none
  | step :: above =>
    if step.extra then none
    else ((Production.get step.production).field? step.part).or (fieldAlong above)

/-- The field of its parent that a node belongs to. -/
def field? (n : NodeInfo) : Option Field := fieldAlong n.steps

end NodeInfo

/-- A visible node with the visible nodes below it. -/
inductive Outline where
  | node (info : NodeInfo) (children : List Outline)

namespace Outline

def info : Outline → NodeInfo
  | node i _ => i

def children : Outline → List Outline
  | node _ cs => cs

end Outline

namespace Tree

/-- The node that a tree appears as behind a place: in its own guise or in that of an alias. -/
def nodeInfo (t : Tree) (guise : Option Symbol) (steps : List Step) (before : Extent) : NodeInfo :=
  { symbol := guise.getD t.symbol
    start := before + t.padding
    stop := before + t.padding + t.size
    isMissing := t.isMissing
    isExtra := t.extra
    hasError := 0 < t.errorCost
    steps := steps }

mutual
/-- The visible nodes of a tree behind a place: the node itself, or those inside it if it is hidden. -/
def outlines (guise : Option Symbol) (steps : List Step) (before : Extent) : Tree → List Outline
  | leaf l =>
    if guise.isSome || l.symbol.isVisible then [.node ((leaf l).nodeInfo guise steps before) []] else []
  | node s ts =>
    if guise.isSome || s.symbol.isVisible then
      [.node ((node s ts).nodeInfo guise steps before) (outlinesOf s.production 0 [] before ts)]
    else outlinesOf s.production 0 steps before ts

/-- The visible nodes of the parts of a rule, from one part on. -/
def outlinesOf (production part : Nat) (above : List Step) (before : Extent) : List Tree → List Outline
  | [] => []
  | t :: ts =>
    let guise := if t.extra then none else (Production.get production).alias? part
    outlines guise (⟨production, part, t.extra⟩ :: above) before t ++
      outlinesOf production (if t.extra then part else part + 1) above (before + t.total) ts
end

/-- The outline of a whole tree. -/
def outline (t : Tree) : Outline :=
  .node (t.nodeInfo none [] Extent.zero) (outlinesOf t.production 0 [] Extent.zero t.children)

end Tree
end Ucode

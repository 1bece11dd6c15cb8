import Ucode.Grammar.Action
import Ucode.Tree.Basic

/-!
# The stack of parse versions

Where the table leaves more than one way to go on, or where an error can be mended in several ways, the parser follows
them side by side. Each way is a version with a stack of its own. The stacks share what they have in common:
they are paths in one graph, whose vertices are parse states at places of the text and whose links carry
trees. When two versions reach the same state at the same place they become one vertex with several links.
-/
namespace Ucode.Parse

open Grammar (StateId)

/-- A step down the stack: the tree on top and the vertex below it. A link without a tree marks an error. -/
structure Link where
  target : Nat
  tree : Option Tree
  deriving Repr, Inhabited

/-- A parse state at a place of the text, with the ways down from it. -/
structure Vertex where
  state : StateId
  /-- The place in the text up to which the trees of the stack reach. -/
  place : Extent
  links : List Link
  errorCost : Nat
  /-- The visible nodes on the stack, counted on one of its paths. -/
  nodes : Nat
  deriving Repr, Inhabited

/-- Whether a version goes on. -/
inductive Status where
  | active
  /-- No action is left for the token; the version waits for the others. -/
  | paused (token : Leaf)
  /-- The version is to be removed. -/
  | halted
  deriving DecidableEq, Repr, Inhabited

/-- A state further down a stack, with the number of trees above it. -/
structure Ancestor where
  place : Extent
  depth : Nat
  state : StateId
  deriving DecidableEq, Repr, Inhabited

/-- One way to parse the text so far. -/
structure Version where
  /-- The top of the stack. -/
  top : Nat
  /-- The states to which the version could go back, once it is in error. -/
  ancestors : Option (List Ancestor)
  /-- The node count of the stack at the last error. -/
  nodesAtError : Nat
  /-- The template context behind the last template token. -/
  context : Option Template.Snapshot
  status : Status
  deriving Repr, Inhabited

/-- All versions and the graph in which their stacks are paths. -/
structure Stack where
  vertices : Array Vertex
  versions : List Version
  deriving Repr, Inhabited

namespace Stack

/-- How many links a vertex can have. -/
def maxLinks : Nat := 8

/-- How many paths are followed at a time. -/
def maxPaths : Nat := 64

/-- The stack at the start of a text: one version, and nothing on it. -/
def initial : Stack :=
  ⟨#[⟨Grammar.StateId.start, Extent.zero, [], 0, 0⟩], [⟨0, none, 0, none, .active⟩]⟩

/-- The vertex with a number. -/
def vertex (s : Stack) (v : Nat) : Vertex := s.vertices.getD v ⟨0, Extent.zero, [], 0, 0⟩

/-- The number of versions. -/
def size (s : Stack) : Nat := s.versions.length

/-- The version with a number. -/
def version (s : Stack) (i : Nat) : Version := s.versions.getD i ⟨0, none, 0, none, .halted⟩

/-- The topmost vertex of a version. -/
def topOf (s : Stack) (i : Nat) : Vertex := s.vertex (s.version i).top

/-- The parse state of a version. -/
def state (s : Stack) (i : Nat) : StateId := (s.topOf i).state

/-- The place in the text that a version has reached. -/
def place (s : Stack) (i : Nat) : Extent := (s.topOf i).place

/-- Whether a version can take a token. -/
def isActive (s : Stack) (i : Nat) : Bool := (s.version i).status == .active

/-- Whether a version is to be removed. -/
def isHalted (s : Stack) (i : Nat) : Bool := (s.version i).status == .halted

/-- Whether a version waits. -/
def isPaused (s : Stack) (i : Nat) : Bool :=
  match (s.version i).status with
  | .paused _ => true
  | _ => false

/-- The stack with one version changed. -/
def modifyVersion (s : Stack) (i : Nat) (f : Version → Version) : Stack :=
  { s with versions := s.versions.modify i f }

/-- The stack without a version; later ones move up. -/
def remove (s : Stack) (i : Nat) : Stack := { s with versions := s.versions.eraseIdx i }

/-- Marks a version for removal. -/
def halt (s : Stack) (i : Nat) : Stack := s.modifyVersion i ({ · with status := .halted })

/-- Lets a version wait with the token that it cannot take. -/
def pause (s : Stack) (i : Nat) (token : Leaf) : Stack :=
  let nodes := (s.topOf i).nodes
  s.modifyVersion i ({ · with status := .paused token, nodesAtError := nodes })

/-- Lets a version that waits go on. -/
def resume (s : Stack) (i : Nat) : Stack := s.modifyVersion i ({ · with status := .active })

/-- Sets the template context of a version. -/
def setContext (s : Stack) (i : Nat) (context : Option Template.Snapshot) : Stack :=
  s.modifyVersion i ({ · with context := context })

/-- Adds a version that goes on as another one does. -/
def copy (s : Stack) (i : Nat) : Stack :=
  { s with versions := s.versions ++ [{ s.version i with ancestors := none }] }

/-- Exchanges the numbers of two versions. -/
def swap (s : Stack) (i j : Nat) : Stack :=
  { s with versions := (s.versions.set i (s.version j)).set j (s.version i) }

/-- Puts a later version in the place of an earlier one. -/
def replace (s : Stack) (source target : Nat) : Stack :=
  if source = target then s
  else
    let moved := s.version source
    let moved := { moved with ancestors := moved.ancestors <|> (s.version target).ancestors }
    { s with versions := (s.versions.set target moved).eraseIdx source }

/-- The nodes that a tree adds to the count of a stack. Skipped groups count although they are not visible. -/
def nodesOf (t : Tree) : Nat := t.visibleNodes + if t.symbol = Symbol.errorRepeat then 1 else 0

/-- Puts a tree, or the mark of an error, on top of a version. -/
def push (s : Stack) (i : Nat) (tree : Option Tree) (state : StateId) : Stack :=
  let below := (s.version i).top
  let v := s.vertex below
  let top : Vertex :=
    match tree with
    | some t => ⟨state, v.place + t.total, [⟨below, tree⟩], v.errorCost + t.errorCost, v.nodes + nodesOf t⟩
    | none => ⟨state, v.place, [⟨below, none⟩], v.errorCost, v.nodes⟩
  let id := s.vertices.size
  { vertices := s.vertices.push top
    versions := s.versions.modify i (fun version =>
      { version with top := id, nodesAtError := if tree.isNone then v.nodes else version.nodesAtError }) }

/-- The error cost of a version. One that was just found in error has the next recovery added. -/
def errorCost (s : Stack) (i : Nat) : Nat :=
  let v := s.topOf i
  -- Once something is skipped the group of it carries the cost, and until then the mark does.
  let marked := v.state == Grammar.StateId.recovery && (v.links.head?.bind (·.tree)).isNone
  v.errorCost + if s.isPaused i || marked then errorCosts.recovery else 0

/-- Notes that the stack of a version has become smaller than it was at the last error. -/
def settle (s : Stack) (i : Nat) : Stack :=
  let nodes := (s.topOf i).nodes
  s.modifyVersion i (fun version => { version with nodesAtError := min version.nodesAtError nodes })

/-- The nodes that a settled version has read since its last error. -/
def nodesSinceError (s : Stack) (i : Nat) : Nat := (s.topOf i).nodes - (s.version i).nodesAtError

/-- Whether a version has read any text since an error, looking down at most so many trees. -/
def advancedFrom (s : Stack) (nodesAtError : Nat) : Nat → Vertex → Bool
  | 0, _ => false
  | fuel + 1, v =>
    match v.links with
    | ⟨target, some t⟩ :: _ =>
      if 0 < t.total.bytes then true
      else if nodesAtError < v.nodes ∧ t.errorCost = 0 then advancedFrom s nodesAtError fuel (s.vertex target)
      else false
    | _ => false

/-- Whether a version has read any text since its last error. -/
def hasAdvanced (s : Stack) (i : Nat) : Bool :=
  (s.topOf i).errorCost == 0 || s.advancedFrom (s.version i).nodesAtError s.vertices.size (s.topOf i)

end Stack
end Ucode.Parse

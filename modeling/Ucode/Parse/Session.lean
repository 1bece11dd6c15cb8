import Ucode.Grammar.Automaton
import Ucode.Parse.Stack.Join
import Ucode.Parse.Stack.Walk
import Ucode.Template.Context

/-!
# The state of a parse

A session holds the stack with its versions and what they share: one template reader, the token that was read
last, and the best complete tree so far. Here is also how versions and trees are ranked against each other.
-/
namespace Ucode.Parse

/-- The token read last, and for which place and context it was read. -/
structure LastToken where
  token : Leaf
  context : Option Template.Snapshot
  bytes : Nat
  deriving Repr, Inhabited

/-- All that a parse remembers. -/
structure Session where
  stack : Stack
  /-- Where the template reader was left by the last attempt to read. -/
  reader : Template.Context
  last : Option LastToken
  finished : Option Tree
  /-- How many complete trees were found. -/
  accepted : Nat
  deriving Repr, Inhabited

namespace Session

/-- The session at the start of a text. -/
def initial : Session := ⟨Stack.initial, Template.Context.fresh, none, none, 0⟩

/-- How many versions are kept. -/
def maxVersions : Nat := 6

/-- How many more versions there can be until they are next sorted out. -/
def versionSlack : Nat := 4

/-- The cost difference, weighted by what was read since, from which on a version is given up. -/
def maxCostDifference : Nat := 1600

/-- How far down the stack a version in error looks for a state to go back to. -/
def maxAncestorDepth : Nat := 16

end Session

/-- Whether the second of two trees for the same text is to be taken: it costs less, or both are in error, or
its shape comes first. -/
def isBetter (old new : Tree) : Bool :=
  if new.errorCost < old.errorCost then true
  else if old.errorCost < new.errorCost then false
  else if 0 < old.errorCost then true
  else old.compareShape new == .more

/-- How well a version does. -/
structure Standing where
  cost : Nat
  /-- The nodes read since its last error. -/
  nodes : Nat
  inError : Bool
  deriving DecidableEq, Repr

/-- How two versions compare. One that is taken makes the other superfluous. -/
inductive Verdict where
  | takeLeft
  | preferLeft
  | even
  | preferRight
  | takeRight
  deriving DecidableEq, Repr

namespace Standing

/-- Whether a version that costs more is too far behind. -/
def isFarAhead (better worse : Standing) : Bool :=
  Session.maxCostDifference < (worse.cost - better.cost) * (1 + better.nodes)

/-- Being in error outweighs the cost; a lower cost outweighs the rest. -/
def compare (a b : Standing) : Verdict :=
  if !a.inError && b.inError then if a.cost < b.cost then .takeLeft else .preferLeft
  else if a.inError && !b.inError then if b.cost < a.cost then .takeRight else .preferRight
  else if a.cost < b.cost then if isFarAhead a b then .takeLeft else .preferLeft
  else if b.cost < a.cost then if isFarAhead b a then .takeRight else .preferRight
  else .even

end Standing

namespace Stack

/-- The standing of a version, which is settled by looking at it. -/
def standing (s : Stack) (i : Nat) : Stack × Standing :=
  let s := s.settle i
  let paused := s.isPaused i
  (s, { cost := s.errorCost i + if paused then errorCosts.tree else 0
        nodes := s.nodesSinceError i
        inError := paused || s.state i == Grammar.StateId.recovery })

/-- Whether one of some other versions outdoes a version with a given standing. -/
def outdoneBy (i : Nat) (mine : Standing) : List Nat → Stack → Stack × Bool
  | [], s => (s, false)
  | j :: others, s =>
    if j = i ∨ !s.isActive j ∨ (s.place j).bytes < (s.place i).bytes then outdoneBy i mine others s
    else
      let (s, standing) := s.standing j
      match mine.compare standing with
      | .takeRight => (s, true)
      | .preferRight => if s.canMerge j i then (s, true) else outdoneBy i mine others s
      | _ => outdoneBy i mine others s

end Stack

namespace Session

/-- Whether a version is of no use once it costs so much: a complete tree or another version is better. -/
def hasBetter (s : Session) (i : Nat) (cost : Nat) : Session × Bool :=
  if s.finished.any (fun t => t.errorCost ≤ cost) then (s, true)
  else
    let stack := s.stack.settle i
    let (stack, found) :=
      Stack.outdoneBy i ⟨cost, stack.nodesSinceError i, false⟩ (List.range stack.size) stack
    ({ s with stack := stack }, found)

/-- The tree over a whole text: the last tree that is no extra, opened to take in the extras around it. -/
def rootOf (trees : List Tree) : Option Tree :=
  let (before, extras) := Tree.splitExtras trees
  match before.getLast? with
  | none => none
  | some t => some (Tree.ofChildren t.symbol t.production (before.dropLast ++ t.children ++ extras) false)

/-- Takes a complete tree, if it is the best one so far. -/
def finish (s : Session) (root : Tree) : Session :=
  let keep := match s.finished with
    | none => root
    | some old => if isBetter old root then root else old
  { s with finished := some keep, accepted := s.accepted + 1 }

/-- Ends a version at the end of the text. -/
def accept (s : Session) (i : Nat) (token : Leaf) : Session :=
  let stack := s.stack.push i (some (.leaf token)) Grammar.StateId.start
  let (stack, slices) := stack.popAll i
  let s := slices.foldl (fun s slice => (rootOf slice.trees).elim s s.finish) s
  let stack := match slices with
    | [] => stack
    | slice :: _ => stack.remove slice.version
  { s with stack := stack.halt i }

end Session
end Ucode.Parse

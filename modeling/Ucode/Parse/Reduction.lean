import Ucode.Parse.Session

/-!
# Reductions

A reduction takes trees off a version and puts a node over them in their place. Where the stack of the version has
several paths, each way of going down gives a version of its own; those that meet again keep the better
children.
-/
namespace Ucode.Parse

/-- A rule to reduce by. -/
structure Rule where
  symbol : Symbol
  count : Nat
  production : Nat
  deriving DecidableEq, Repr

namespace Rule

/-- The node over some trees, and the extras that are left behind it. -/
def apply (r : Rule) (trees : List Tree) : Tree × List Tree :=
  let (children, extras) := Tree.splitExtras trees
  (Tree.ofChildren r.symbol r.production children false, extras)

/-- The better of a node and the one over other trees. -/
def improve (r : Rule) (old : Tree × List Tree) (trees : List Tree) : Tree × List Tree :=
  let (children, extras) := Tree.splitExtras trees
  if isBetter old.1 (Tree.ofChildren r.symbol 0 children false) then
    (Tree.ofChildren r.symbol r.production children false, extras)
  else old

/-- The node over one of several rows of trees. -/
def choose (r : Rule) : List (List Tree) → Option (Tree × List Tree)
  | [] => none
  | first :: others => some (others.foldl r.improve (r.apply first))

end Rule

namespace Stack

/-- Puts trees on top of a version, all with the same state. -/
def pushAll (s : Stack) (i : Nat) (trees : List Tree) (state : Grammar.StateId) : Stack :=
  trees.foldl (fun s t => s.push i (some t) state) s

/-- Puts the node in place of the trees that were taken off, for one of the versions left. The number counts
the versions that have gone meanwhile. -/
def reduceGroup (i : Nat) (r : Rule) (acc : Stack × Nat) (group : List Slice) : Stack × Nat :=
  let (s, removed) := acc
  match group with
  | [] => acc
  | slice :: _ =>
    let version := slice.version - removed
    if Session.maxVersions + Session.versionSlack < version then (s.remove version, removed + 1)
    else
      -- Paths that meet at one vertex differ only in the trees taken off, and one row of them is enough.
      match r.choose (group.map (·.trees)) with
      | none => acc
      | some (node, extras) =>
        let state := Grammar.next (s.state version) r.symbol
        let s := (s.push version (some node) state).pushAll version extras state
        -- Version `i` is left out: the reduction takes its place later on, whatever it has in common with it.
        match s.mergeFirst? ((List.range version).filter (· != i)) version with
        | some s => (s, removed + 1)
        | none => (s, removed)

/-- Reduces a version. The versions that come of it are added behind the others, and the first of them is told. -/
def reduce (s : Stack) (i : Nat) (r : Rule) : Stack × Option Nat :=
  let before := s.size
  let (s, slices) := s.pop i r.count
  let (s, _) := (slices.splitBy (fun a b => a.version == b.version)).foldl (reduceGroup i r) (s, 0)
  (s, if before < s.size then some before else none)

end Stack
end Ucode.Parse

import Ucode.Parse.Reduction

/-!
# Recovery from errors

A version in error first makes all reductions that could help and tries to put in one missing token. Then it
stands in the recovery state. With each token it goes back to a state further down the stack in which the
token can stand, wrapping what lies between in an error, and besides skips the token.
-/
namespace Ucode.Parse

open Grammar (StateId)

namespace Stack

/-- The reductions among some actions, each symbol and length once, added to those found before. -/
def addRules (rules : List Rule) (actions : List Grammar.Action) : List Rule :=
  actions.foldl (fun rules action =>
    match action with
    | .reduce symbol count production =>
      -- A reduction of nothing could be made again and again.
      if count = 0 ∨ rules.any (fun r => r.symbol == symbol && r.count == count) then rules
      else rules ++ [⟨symbol, count, production⟩]
    | _ => rules) rules

/-- Whether some action takes the token. -/
def takesToken (actions : List Grammar.Action) : Bool :=
  actions.any (fun action =>
    match action with
    | .shift _ | .recover => true
    | _ => false)

/-- All tokens but the end. -/
def allTokens : List Symbol := (List.range (Symbol.tokenCount - 1)).map (· + 1)

/-- The tokens that reductions are tried for: the one that comes next, or before the end all of them. -/
def candidateTokens (token : Symbol) : List Symbol := if token = Symbol.finish then allTokens else [token]

/-- Makes the reductions one after the other and tells what came of the last one. -/
def reduceAll (s : Stack) (i : Nat) (rules : List Rule) : Stack × Option Nat :=
  rules.foldl (fun (s, _) r => s.reduce i r) (s, none)

/-- Makes reductions on version `start`, and on those that come of it, until the token can be taken. The result tells
whether it can in one of them. Versions from number `first` on have come of it; `round` counts the steps. -/
def reduceRounds (start first : Nat) (token : Symbol) :
    Nat → Nat → Nat → Bool → Stack → Stack × Bool
  | 0, _, _, shiftable, s => (s, shiftable)
  | fuel + 1, round, i, shiftable, s =>
    let size := s.size
    if size ≤ i then (s, shiftable)
    else
      match s.mergeFirst? ((List.range i).drop first) i with
      | some s => reduceRounds start first token fuel (round + 1) i shiftable s
      | none =>
        let actions := (candidateTokens token).map (Grammar.actions (s.state i))
        let (s, reduced) := s.reduceAll i (actions.foldl addRules [])
        -- From the version it all began with the search goes on to those that came of it.
        let next := if i = start then size else i + 1
        if actions.any takesToken then reduceRounds start first token fuel (round + 1) next true s
        else
          match reduced, decide (round < Session.maxVersions) with
          -- The last reduction takes the place of the version, which is looked at again.
          | some version, true => reduceRounds start first token fuel (round + 1) i shiftable (s.replace version i)
          | _, _ =>
            reduceRounds start first token fuel (round + 1) next shiftable (if token = Symbol.finish then s else s.remove i)

/-- More rounds than reductions on one version can take. -/
def reductionRounds (s : Stack) : Nat := 16 * (s.vertices.size + 16)

/-- Makes all reductions that can be made on a version before a token. The end stands for any token. -/
def reduceFor (s : Stack) (i : Nat) (token : Symbol) : Stack × Bool :=
  reduceRounds i s.size token s.reductionRounds 0 i false s

/-- A token that was put in. -/
def missingLeaf (symbol : Symbol) : Leaf := ⟨symbol, Extent.zero, Extent.zero, false, 0, .missing⟩

/-- Tries to put in one token after which the next one can be taken, the first that will do. -/
def insertMissing (s : Stack) (i : Nat) (token : Symbol) : List Symbol → Stack × Bool
  | [] => (s, false)
  | symbol :: others =>
    let state := s.state i
    let behind := Grammar.next state symbol
    -- Only a token behind which some reduction is made before the next one is worth a version of its own.
    if behind = StateId.recovery ∨ behind = state ∨ !Grammar.completes behind token then
      insertMissing s i token others
    else
      let copied := s.size
      let s := (s.copy i).push copied (some (.leaf (missingLeaf symbol))) behind
      match s.reduceFor copied token with
      | (s, true) => (s, true)
      | (s, false) => insertMissing s i token others

/-- Marks versions as in error. Before that, a missing token is put in for the first that can do with one. -/
def markErrors (token : Symbol) : List Nat → Bool → Stack → Stack
  | [], _, s => s
  | i :: others, inserted, s =>
    let (s, inserted) :=
      if inserted then (s, true) else s.insertMissing i token allTokens
    markErrors token others inserted (s.push i none StateId.recovery)

/-- Joins so many versions to the first one, where each stands at the same number in its turn. -/
def mergeTimes (i j : Nat) : Nat → Stack → Stack
  | 0, s => s
  | times + 1, s => mergeTimes i j times ((s.merge? i j).getD s)

/-- Brings a version for which no action is left into the recovery state. -/
def enterRecovery (s : Stack) (i : Nat) (token : Symbol) : Stack :=
  let before := s.size
  let (s, _) := s.reduceFor i Symbol.finish
  let after := s.size
  let versions := i :: ((List.range after).drop before)
  let s := mergeTimes i before (after - before) (markErrors token versions false s)
  s.recordAncestors i Session.maxAncestorDepth

/-- Goes back to a state for one of the versions left by a pop. -/
def goBack (goal : StateId) (acc : Stack × Option Nat) (slice : Slice) : Stack × Option Nat :=
  let (s, previous) := acc
  -- Slices of one version stand side by side, and the first that led back to the state settles the version.
  if previous = some slice.version then acc
  else if s.state slice.version ≠ goal then (s.halt slice.version, previous)
  else
    let (s, errors) := s.popError slice.version
    let inner := (errors.head?.map Tree.children).getD []
    -- What follows the last tree that counts stays outside the error.
    let (trees, extras) := Tree.splitExtras (inner ++ slice.trees)
    let s := if trees.isEmpty then s
      else s.push slice.version (some (Tree.ofChildren Symbol.error 0 trees true)) goal
    (s.pushAll slice.version extras goal, some slice.version)

/-- Adds versions that have gone back to a state so many trees further down, and tells whether there are any. -/
def goBackTo (s : Stack) (i depth : Nat) (goal : StateId) : Stack × Bool :=
  let (s, slices) := s.pop i depth
  let (s, version) := slices.foldl (goBack goal) (s, none)
  (s, version.isSome)

/-- Removes the versions from a number on that are no longer active. -/
def dropInactive (s : Stack) (first : Nat) : Stack :=
  { s with versions := s.versions.take first ++ (s.versions.drop first).filter (fun v => v.status == .active) }

/-- Whether one of the first versions is in a state at a place already. -/
def isTaken (s : Stack) (first : Nat) (state : StateId) (bytes : Nat) : Bool :=
  (List.range first).any (fun j => s.state j == state && (s.place j).bytes == bytes)

end Stack

namespace Session

/-- Tries to go back to one of the states further down. What was skipped since the error counts as one tree. -/
def tryAncestors (i : Nat) (token : Leaf) (before cost skipped : Nat) : List Ancestor → Session → Session × Bool
  | [], s => (s, false)
  | a :: others, s =>
    let place := s.stack.place i
    -- Going back over nothing, or to where another version stands, leads nowhere new.
    if a.state = StateId.recovery ∨ a.place.bytes = place.bytes ∨ s.stack.isTaken before a.state place.bytes then
      tryAncestors i token before cost skipped others s
    else
      let newCost := cost + a.depth * errorCosts.tree + (place.bytes - a.place.bytes) * errorCosts.byte +
        (place.rows - a.place.rows) * errorCosts.row
      match s.hasBetter i newCost with
      | (s, true) => (s, false)
      | (s, false) =>
        if Grammar.hasActions a.state token.symbol then
          match s.stack.goBackTo i (a.depth + skipped) a.state with
          | (stack, true) => ({ s with stack := stack }, true)
          | (stack, false) => tryAncestors i token before cost skipped others { s with stack := stack }
        else tryAncestors i token before cost skipped others s

/-- Whether a token can stand anywhere, as a comment can. -/
def isExtraToken (symbol : Symbol) : Bool :=
  match (Grammar.actions StateId.start symbol).getLast? with
  | some .shiftExtra => true
  | _ => false

/-- Whether a token changes the context in which what follows is read. -/
def changesContext (token : Leaf) : Bool :=
  match token.origin with
  | .template _ changed => changed
  | _ => false

/-- Sets the context behind a template token. -/
def noteContext (stack : Stack) (i : Nat) (token : Leaf) : Stack :=
  match token.origin with
  | .template context _ => stack.setContext i context
  | _ => stack

/-- Skips a token: it joins what was skipped before it. -/
def skip (s : Session) (i : Nat) (token : Leaf) (skipped : Bool) : Session :=
  let token := if isExtraToken token.symbol then { token with extra := true } else token
  let group := Tree.ofChildren Symbol.errorRepeat 0 [.leaf token] false
  let (stack, group) :=
    if skipped then
      match s.stack.pop i 1 with
      | (stack, []) => (stack, group)
      | (stack, slice :: others) =>
        let stack := if others.isEmpty then stack
          else { stack with versions := stack.versions.take (slice.version + 1) }
        (stack.replace slice.version i, Tree.ofChildren Symbol.errorRepeat 0 (slice.trees ++ [group]) false)
    else (s.stack, group)
  { s with stack := noteContext (stack.push i (some group) StateId.recovery) i token }

/-- Deals with a token in the recovery state. -/
def recover (s : Session) (i : Nat) (token : Leaf) : Session :=
  let before := s.stack.size
  let stack := s.stack.settle i
  let s := { s with stack := stack }
  let sinceError := stack.nodesSinceError i
  let cost := stack.errorCost i
  let skipped := if 0 < sinceError then 1 else 0
  let (s, recovered) :=
    match (stack.version i).ancestors with
    | some ancestors =>
      if token.symbol = Symbol.error then (s, false)
      else tryAncestors i token before cost skipped ancestors s
    | none => (s, false)
  let s := { s with stack := s.stack.dropInactive before }
  -- Behind a token that changes the context a version that skips it would read another text than the one that took it.
  if recovered ∧ (maxVersions < s.stack.size ∨ changesContext token) then { s with stack := s.stack.halt i }
  else if token.symbol = Symbol.finish then
    let empty := Tree.ofChildren Symbol.error 0 [] false
    { s with stack := s.stack.push i (some empty) StateId.start }.accept i token
  else
    let total := token.padding + token.size
    match s.hasBetter i (cost + errorCosts.tree + total.bytes * errorCosts.byte + total.rows * errorCosts.row) with
    | (s, true) => { s with stack := s.stack.halt i }
    | (s, false) => s.skip i token (0 < sinceError)

/-- Deals with the token for which a version has no action left. -/
def handleError (s : Session) (i : Nat) (token : Leaf) : Session :=
  { s with stack := s.stack.enterRecovery i token.symbol }.recover i token

end Session
end Ucode.Parse

import Ucode.Parse.Stack.Basic

/-!
# Walking down the stack

A version stands for all paths that lead down from its top. They are followed side by side, one link at a time, to take
trees off the stack or to see which states lie below. Each place where a walk ends becomes a version.
-/
namespace Ucode.Parse.Stack

/-- A way down from the top of a version: the vertex that it has reached, and the trees passed from the lowest
to the topmost. Extras are not counted. -/
structure Path where
  vertex : Nat
  trees : List Tree
  count : Nat
  deriving Inhabited

/-- What to do with a path at the vertex that it has reached. -/
structure Visit where
  /-- The path is one of those looked for. -/
  take : Bool
  /-- The path goes no further. -/
  stop : Bool

/-- One link further down. -/
def Path.along (p : Path) (link : Link) : Path :=
  match link.tree with
  | some t => ⟨link.target, t :: p.trees, if t.extra then p.count else p.count + 1⟩
  | none => ⟨link.target, p.trees, p.count + 1⟩

/-- What a round of steps has done so far. -/
structure Round (σ : Type) where
  memory : σ
  taken : List Path
  /-- The paths that go on, the last one first. -/
  kept : List Path
  /-- The paths that branched off, the last one first. -/
  added : List Path
  /-- How many paths are followed at present. -/
  alive : Nat

/-- One step of one path. -/
def stepPath {σ : Type} (s : Stack) (visit : σ → Path → σ × Visit) (r : Round σ) (p : Path) : Round σ :=
  let (memory, v) := visit r.memory p
  let r := { r with memory := memory, taken := if v.take then p :: r.taken else r.taken }
  match (s.vertex p.vertex).links with
  | [] => { r with alive := r.alive - 1 }
  | first :: others =>
    if v.stop then { r with alive := r.alive - 1 }
    else
      -- The path itself takes the first link; the other links branch off as long as there is room.
      let branches := (others.take (maxPaths - r.alive)).map p.along
      { r with kept := p.along first :: r.kept, added := branches.reverse ++ r.added, alive := r.alive + branches.length }

/-- Follows paths in rounds until none is left. The paths taken are given in the order in which they were. -/
def walkRounds {σ : Type} (s : Stack) (visit : σ → Path → σ × Visit) : Nat → σ → List Path → List Path → σ × List Path
  | 0, memory, taken, _ => (memory, taken.reverse)
  | _ + 1, memory, taken, [] => (memory, taken.reverse)
  | fuel + 1, memory, taken, paths =>
    let r := paths.foldl (stepPath s visit) ⟨memory, taken, [], [], paths.length⟩
    walkRounds s visit fuel r.memory r.taken (r.kept.reverse ++ r.added.reverse)

/-- Walks down from the top of a version. -/
def walk {σ : Type} (s : Stack) (i : Nat) (memory : σ) (visit : σ → Path → σ × Visit) : σ × List Path :=
  walkRounds s visit (s.vertices.size + 1) memory [] [⟨(s.version i).top, [], 0⟩]

/-! ### Taking trees off -/

/-- Trees taken off a version, and the version that is left. -/
structure Slice where
  version : Nat
  trees : List Tree
  deriving Inhabited

/-- Adds the version left by a path, or uses one that an earlier path has left at the same vertex. The slices of
one version stand together. -/
def addSlice (popped : Version) (acc : Stack × List Slice) (p : Path) : Stack × List Slice :=
  let (s, slices) := acc
  -- The last slice that ends at the vertex is looked for, and the new one goes in right behind it.
  match slices.reverse.findIdx? (fun slice => (s.version slice.version).top == p.vertex) with
  | some back =>
    let last := slices.length - 1 - back
    let version := (slices.getD last ⟨0, []⟩).version
    (s, slices.take (last + 1) ++ ⟨version, p.trees⟩ :: slices.drop (last + 1))
  | none =>
    ({ s with versions := s.versions ++ [⟨p.vertex, none, popped.nodesAtError, popped.context, .active⟩] },
      slices ++ [⟨s.size, p.trees⟩])

/-- The versions left by some paths. -/
def addSlices (s : Stack) (i : Nat) (paths : List Path) : Stack × List Slice :=
  paths.foldl (addSlice (s.version i)) (s, [])

/-- Takes so many trees off a version, on all of its paths. -/
def pop (s : Stack) (i : Nat) (count : Nat) : Stack × List Slice :=
  s.addSlices i (s.walk i () (fun _ p => ((), ⟨p.count == count, p.count == count⟩))).2

/-- Takes all trees off a version. -/
def popAll (s : Stack) (i : Nat) : Stack × List Slice :=
  s.addSlices i (s.walk i () (fun _ p => ((), ⟨(s.vertex p.vertex).links.isEmpty, false⟩))).2

/-- Takes the first error off a version that is the topmost tree on one of its paths, and leaves the version in its
place. -/
def popError (s : Stack) (i : Nat) : Stack × List Tree :=
  if (s.topOf i).links.any (fun l => l.tree.any Tree.isError) then
    let (_, paths) := s.walk i false (fun found p =>
      match p.trees with
      | [] => (found, ⟨false, false⟩)
      | _ =>
        -- One tree has been passed; `found` tells whether an earlier path has had its error already.
        let here := !found && (p.trees.getLast?.any Tree.isError)
        (found || here, ⟨here, true⟩))
    let (s, slices) := s.addSlices i paths
    match slices with
    | [] => (s, [])
    | slice :: _ => (s.replace slice.version i, slice.trees)
  else (s, [])

/-- Adds a state to a summary of the stack, unless it is there at the same depth. The last entries come first. -/
def noteAncestor (limit : Nat) (s : Stack) (entries : List Ancestor) (p : Path) : List Ancestor × Visit :=
  if limit < p.count then (entries, ⟨false, true⟩)
  else
    let v := s.vertex p.vertex
    -- The entries are in the order of their depths, so only those at the front can be as deep.
    let near := entries.takeWhile (fun e => p.count ≤ e.depth)
    if near.any (fun e => e.depth == p.count && e.state == v.state) then (entries, ⟨false, false⟩)
    else (⟨v.place, p.count, v.state⟩ :: entries, ⟨false, false⟩)

/-- Notes the states below the top of a version, down to a depth. -/
def recordAncestors (s : Stack) (i : Nat) (limit : Nat) : Stack :=
  let (entries, _) := s.walk i [] (noteAncestor limit s)
  s.modifyVersion i ({ · with ancestors := some entries.reverse })

end Ucode.Parse.Stack

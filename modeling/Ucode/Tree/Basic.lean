import Ucode.Grammar.Production
import Ucode.Template.Snapshot
import Ucode.Text.Extent

/-!
# Trees

A tree is a leaf, which stands for a token, or a node over smaller trees. Its padding is the white space before its
first token and is no part of it. A node carries a summary of what is below it: its extent, how much of it
is in error, and how many visible nodes it shows. `Tree.ofChildren` is the only way to make one.
-/
namespace Ucode

/-- What errors cost. A parse with less cost is a better one. -/
structure ErrorCosts where
  /-- For each stretch of skipped text. -/
  recovery : Nat
  /-- For each token that was put in. -/
  missing : Nat
  /-- For each visible tree inside a skipped stretch. -/
  tree : Nat
  /-- For each byte of a skipped stretch. -/
  byte : Nat
  /-- For each row of a skipped stretch. -/
  row : Nat

/-- The costs by which parses are compared. -/
def errorCosts : ErrorCosts := ⟨500, 110, 100, 1, 30⟩

/-- Where a leaf comes from. -/
inductive Origin where
  /-- A lexeme of the code. A reserved word may begin it even where it is not one. -/
  | code (reserved : Bool)
  /-- A template token, with the context behind it; it can leave the context as it was. -/
  | template (context : Option Template.Snapshot) (changed : Bool)
  /-- A token that was put in where it is missing. -/
  | missing
  /-- Text that could not be read, from the code point on that stopped the reader. -/
  | unexpected (stopper : CodePoint)
  deriving DecidableEq, Repr, Inhabited

/-- A token in a tree. -/
structure Leaf where
  symbol : Symbol
  padding : Extent
  size : Extent
  /-- Stands between the parts of a rule instead of being one. -/
  extra : Bool
  /-- The parse state that it was read for. -/
  state : Nat
  origin : Origin
  deriving DecidableEq, Repr, Inhabited

namespace Leaf

/-- Whether the token was put in. -/
def isMissing (l : Leaf) : Bool :=
  match l.origin with
  | .missing => true
  | _ => false

/-- The context behind a template token. -/
def context (l : Leaf) : Option Template.Snapshot :=
  match l.origin with
  | .template context _ => context
  | _ => none

/-- A token that was put in costs as much as one more error. -/
def errorCost (l : Leaf) : Nat := if l.isMissing then errorCosts.missing + errorCosts.recovery else 0

end Leaf

/-- What a node knows about the trees below it. -/
structure Summary where
  symbol : Symbol
  production : Nat
  padding : Extent
  size : Extent
  extra : Bool
  errorCost : Nat
  /-- The visible nodes below, at any depth. -/
  visibleDescendants : Nat
  /-- The visible nodes below that no visible node stands above. -/
  visibleChildren : Nat
  /-- How deep repetitions of the same symbol are nested in it. -/
  repeatDepth : Nat
  deriving DecidableEq, Repr, Inhabited

/-- What a text was parsed into. -/
inductive Tree where
  | leaf (token : Leaf)
  | node (summary : Summary) (children : List Tree)
  deriving Repr, Inhabited

namespace Tree

def symbol : Tree → Symbol
  | leaf l => l.symbol
  | node s _ => s.symbol

def padding : Tree → Extent
  | leaf l => l.padding
  | node s _ => s.padding

def size : Tree → Extent
  | leaf l => l.size
  | node s _ => s.size

/-- The extent with the padding. -/
def total (t : Tree) : Extent := t.padding + t.size

def extra : Tree → Bool
  | leaf l => l.extra
  | node s _ => s.extra

def production : Tree → Nat
  | leaf _ => 0
  | node s _ => s.production

def children : Tree → List Tree
  | leaf _ => []
  | node _ ts => ts

def errorCost : Tree → Nat
  | leaf l => l.errorCost
  | node s _ => s.errorCost

def visibleDescendants : Tree → Nat
  | leaf _ => 0
  | node s _ => s.visibleDescendants

def visibleChildren : Tree → Nat
  | leaf _ => 0
  | node s _ => s.visibleChildren

def repeatDepth : Tree → Nat
  | leaf _ => 0
  | node s _ => s.repeatDepth

def isMissing : Tree → Bool
  | leaf l => l.isMissing
  | node _ _ => false

/-- The context behind a tree that is a template token. -/
def context : Tree → Option Template.Snapshot
  | leaf l => l.context
  | node _ _ => none

def isVisible (t : Tree) : Bool := t.symbol.isVisible

def isError (t : Tree) : Bool := t.symbol == Symbol.error

mutual
/-- The tokens of a tree in the order of the text. -/
def leaves : Tree → List Leaf
  | leaf l => [l]
  | node _ ts => leavesOf ts

/-- The tokens of a row of trees. -/
def leavesOf : List Tree → List Leaf
  | [] => []
  | t :: ts => leaves t ++ leavesOf ts
end

@[simp] theorem leaves_leaf (l : Leaf) : (leaf l).leaves = [l] := by rw [leaves]

@[simp] theorem leaves_node (s : Summary) (ts : List Tree) : (node s ts).leaves = leavesOf ts := by rw [leaves]

@[simp] theorem leavesOf_nil : leavesOf [] = [] := by rw [leavesOf]

@[simp] theorem leavesOf_cons (t : Tree) (ts : List Tree) : leavesOf (t :: ts) = t.leaves ++ leavesOf ts := by
  rw [leavesOf]

@[simp] theorem leavesOf_append (ts us : List Tree) : leavesOf (ts ++ us) = leavesOf ts ++ leavesOf us := by
  induction ts with
  | nil => simp
  | cons t ts ih => simp [ih]

/-- Whether trees of a symbol are stretches of skipped text, visible or not. -/
def isSkipped (symbol : Symbol) : Bool := symbol == Symbol.error || symbol == Symbol.errorRepeat

/-- The visible nodes that a tree adds to the one above it. -/
def visibleNodes (t : Tree) : Nat := t.visibleDescendants + if t.isVisible then 1 else 0

/-- What is known of some children of a node, read from left to right. -/
structure Tally where
  /-- How many of them are parts of the rule. -/
  parts : Nat
  errorCost : Nat
  visibleDescendants : Nat
  visibleChildren : Nat

/-- The cost of a tree inside a stretch of skipped text. -/
def skippedCost (t : Tree) : Nat :=
  if t.extra || (t.isError && t.children.isEmpty) then 0
  else if t.isVisible then errorCosts.tree
  else errorCosts.tree * t.visibleChildren

/-- One more child. -/
def Tally.add (symbol : Symbol) (production : Production) (a : Tally) (t : Tree) : Tally :=
  -- Extras do not count as parts, so they never have an alias.
  let shown := (!t.extra && (production.alias? a.parts).isSome) || t.isVisible
  { parts := if t.extra then a.parts else a.parts + 1
    -- A group of skipped trees has its cost added once, by the error around it.
    errorCost := a.errorCost + (if t.symbol = Symbol.errorRepeat then 0 else t.errorCost) +
      (if isSkipped symbol then skippedCost t else 0)
    visibleDescendants := a.visibleDescendants + t.visibleDescendants + (if shown then 1 else 0)
    visibleChildren := a.visibleChildren + (if shown then 1 else t.visibleChildren) }

/-- The extents of the padding and of the rest of a row of trees. -/
def extents : List Tree → Extent × Extent
  | [] => (Extent.zero, Extent.zero)
  | first :: others => (first.padding, others.foldl (fun size t => size + t.total) first.size)

/-- How deep the repetition is that a node continues. -/
def repetition (symbol : Symbol) : List Tree → Nat
  | first :: second :: others =>
    if symbol.visibility = .auxiliary ∧ first.symbol = symbol then
      max first.repeatDepth ((second :: others).getLastD second).repeatDepth + 1
    else 0
  | _ => 0

/-- The node of a symbol over some trees. -/
def ofChildren (symbol : Symbol) (production : Nat) (children : List Tree) (extra : Bool) : Tree :=
  let tally := children.foldl (Tally.add symbol (Production.get production)) ⟨0, 0, 0, 0⟩
  let (padding, size) := extents children
  node
    { symbol := symbol
      production := production
      padding := padding
      size := size
      extra := extra
      errorCost := tally.errorCost + (if isSkipped symbol then
        errorCosts.recovery + errorCosts.byte * size.bytes + errorCosts.row * size.rows else 0)
      visibleDescendants := tally.visibleDescendants
      visibleChildren := tally.visibleChildren
      repeatDepth := repetition symbol children }
    children

@[simp] theorem leaves_ofChildren (symbol : Symbol) (production : Nat) (children : List Tree) (extra : Bool) :
    (ofChildren symbol production children extra).leaves = leavesOf children := by
  simp [ofChildren]

/-- The same node over other trees. -/
def withChildren (t : Tree) (children : List Tree) : Tree := ofChildren t.symbol t.production children t.extra

@[simp] theorem leaves_withChildren (t : Tree) (children : List Tree) :
    (t.withChildren children).leaves = leavesOf children := by
  simp [withChildren]

/-- The trees of a row and the extras behind the last of them that is none. -/
def splitExtras (trees : List Tree) : List Tree × List Tree :=
  let extras := (trees.reverse.takeWhile extra).reverse
  (trees.take (trees.length - extras.length), extras)

/-- Compares trees by the symbol and the number of children of their nodes, in the order of reading. -/
inductive Shape where
  | less | same | more
  deriving DecidableEq

mutual
/-- How the shapes of two trees compare. -/
def compareShape : Tree → Tree → Shape
  | leaf a, b =>
    if a.symbol < b.symbol then .less
    else if b.symbol < a.symbol then .more
    else if b.children.isEmpty then .same else .less
  | node a as, b =>
    if a.symbol < b.symbol then .less
    else if b.symbol < a.symbol then .more
    else if as.length < b.children.length then .less
    else if b.children.length < as.length then .more
    else compareShapes as b.children

/-- The first difference between two rows of trees. -/
def compareShapes : List Tree → List Tree → Shape
  | a :: as, b :: bs =>
    match compareShape a b with
    | .same => compareShapes as bs
    | found => found
  | _, _ => .same
end

end Tree
end Ucode

import Ucode.Tree.Basic

/-!
# Balancing repetitions

A repetition is parsed into a chain of nodes that leans to the left. `Tree.balance` turns chains into flatter
trees by rotations. The nodes of a chain are hidden, so the tokens, their order and the visible nodes stay what
they are.
-/
namespace Ucode.Tree

/-- Rotates so many links of the chain of a symbol that starts at a tree, as far as it goes. -/
def rotate (symbol : Symbol) : Nat → Tree → Tree
  | 0, t => t
  | count + 1, t =>
    match t with
    | node s (node c (node g grandchildren :: childRest) :: rest) =>
      if rest.isEmpty ∨ childRest.isEmpty ∨ grandchildren.length < 2 ∨ c.symbol ≠ symbol ∨ g.symbol ≠ symbol then t
      else
        let moved := (grandchildren.getLast?).toList
        let child := (node c []).withChildren (moved ++ childRest)
        let grandchild := (node g []).withChildren (grandchildren.dropLast ++ [child])
        (node s []).withChildren (rotate symbol count grandchild :: rest)
    | _ => t

/-- Rotates half of a chain, then half of that, and so on down to one link. -/
def rotateHalves : Nat → Nat → Tree → Tree
  | 0, _, t => t
  | fuel + 1, count, t => if count = 0 then t else rotateHalves fuel (count / 2) (rotate t.symbol count t)

/-- Rotates a tree whose first child continues a deeper chain than its last one. -/
def flatten (t : Tree) : Tree :=
  match t.children with
  | [] => t
  | first :: rest =>
    let excess := first.repeatDepth - (rest.getLastD first).repeatDepth
    if t.repeatDepth = 0 then t else rotateHalves excess (excess / 2) t

mutual
/-- The number of trees in a tree. -/
def count : Tree → Nat
  | leaf _ => 1
  | node _ ts => counts ts + 1

/-- The number of trees in some trees. -/
def counts : List Tree → Nat
  | [] => 0
  | t :: ts => count t + counts ts
end

/-- Balances a tree down to a depth. -/
def balanceTo : Nat → Tree → Tree
  | 0, t => t
  | depth + 1, t =>
    match flatten t with
    | leaf l => leaf l
    | node s ts => node s (ts.map (balanceTo depth))

/-- Balances all repetitions in a tree. -/
def balance (t : Tree) : Tree := balanceTo t.count t

theorem leaves_rotate (symbol : Symbol) (count : Nat) (t : Tree) : (rotate symbol count t).leaves = t.leaves := by
  fun_induction rotate symbol count t with
  | case1 => rfl
  | case2 => rfl
  | case3 count s c g grandchildren childRest rest wide moved child grandchild ih =>
    have proper : grandchildren ≠ [] := by
      intro empty
      simp [empty] at wide
    have last : leavesOf grandchildren.dropLast ++ leavesOf moved = leavesOf grandchildren := by
      rw [← leavesOf_append]
      simp only [moved, List.getLast?_eq_some_getLast proper, Option.toList_some]
      rw [List.dropLast_concat_getLast proper]
    rw [leaves_withChildren, leavesOf_cons, ih]
    simp only [grandchild, child, leaves_withChildren, leavesOf_append, leavesOf_cons, leavesOf_nil, leaves_node,
      ← last]
    simp
  | case4 => rfl

theorem leaves_rotateHalves (fuel count : Nat) (t : Tree) : (rotateHalves fuel count t).leaves = t.leaves := by
  induction fuel generalizing count t with
  | zero => rw [rotateHalves]
  | succ fuel ih =>
    rw [rotateHalves]
    split
    · rfl
    · rw [ih, leaves_rotate]

theorem leaves_flatten (t : Tree) : t.flatten.leaves = t.leaves := by
  unfold flatten
  split
  · rfl
  · dsimp only
    split
    · rfl
    · exact leaves_rotateHalves _ _ t

theorem leaves_balanceTo (depth : Nat) (t : Tree) : (balanceTo depth t).leaves = t.leaves := by
  induction depth generalizing t with
  | zero => rw [balanceTo]
  | succ depth ih =>
    rw [balanceTo, ← leaves_flatten t]
    cases t.flatten with
    | leaf l => rfl
    | node s ts =>
      simp only [leaves_node]
      induction ts with
      | nil => rfl
      | cons first others others_ih => simp [ih, others_ih]

/-- Balancing keeps the tokens and their order. -/
theorem leaves_balance (t : Tree) : t.balance.leaves = t.leaves := leaves_balanceTo _ t

end Ucode.Tree

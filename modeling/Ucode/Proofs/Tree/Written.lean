import Mathlib.Data.List.TakeWhile
import Mathlib.Tactic.SplitIfs
import Ucode.Proofs.Grammar.Survey
import Ucode.Tree.Balance

/-!
# The symbols in a tree

A tree is written if no symbol in it is that of the token that stands in no text. Building nodes, parting extras from a row of
trees and balancing all keep this. A row of trees is headed by the last tree in it that is no extra, which is the one
that a whole text is made of.
-/
namespace Ucode.Tree

/-- No symbol in the tree is that of the token that stands in no text. -/
inductive Written : Tree → Prop
  | leaf {l : Leaf} (proper : l.symbol ≠ Symbol.unwritten) : Written (leaf l)
  | node {s : Summary} {ts : List Tree} (proper : s.symbol ≠ Symbol.unwritten) (inside : ∀ t ∈ ts, Written t) :
      Written (node s ts)

section Written

variable {symbol : Symbol} {production : Nat} {extra : Bool} {t u : Tree} {ts us : List Tree}

theorem Written.symbol_ne (written : t.Written) : t.symbol ≠ Symbol.unwritten := by
  cases written with
  | leaf proper => exact proper
  | node proper _ => exact proper

theorem Written.children (written : t.Written) : ∀ u ∈ t.children, u.Written := by
  cases written with
  | leaf _ => exact List.forall_mem_nil _
  | node _ inside => exact inside

theorem written_ofChildren (proper : symbol ≠ Symbol.unwritten) (inside : ∀ t ∈ ts, t.Written) :
    (ofChildren symbol production ts extra).Written := .node proper inside

end Written

/-- A tree that a whole text can have. -/
structure IsRoot (t : Tree) : Prop where
  written : t.Written
  symbol : t.symbol = Symbol.markup ∨ t.symbol = Symbol.error

/-! ### Rows of trees -/

section Rows

variable {t : Tree} {ts us : List Tree}

/-- The last tree of a row that is no extra. -/
def headOf (ts : List Tree) : Option Tree := ts.reverse.find? (fun t => !t.extra)

theorem headOf_cons (t : Tree) (ts : List Tree) :
    headOf (t :: ts) = (headOf ts).or (if t.extra then none else some t) := by
  rw [headOf, List.reverse_cons, List.find?_append, List.find?_singleton]
  cases t.extra <;> rfl

theorem splitExtras_eq (ts : List Tree) :
    splitExtras ts = ((ts.reverse.dropWhile extra).reverse, (ts.reverse.takeWhile extra).reverse) := by
  have whole : ts = (ts.reverse.dropWhile extra).reverse ++ (ts.reverse.takeWhile extra).reverse := by
    rw [← List.reverse_append, List.takeWhile_append_dropWhile, List.reverse_reverse]
  have length := congrArg List.length whole
  rw [List.length_append] at length
  rw [splitExtras, Prod.mk.injEq]
  refine ⟨?_, rfl⟩
  rw [show ts.length - (ts.reverse.takeWhile extra).reverse.length = (ts.reverse.dropWhile extra).reverse.length by omega]
  exact (congrArg _ whole).trans List.take_left

theorem splitExtras_append (ts : List Tree) : (splitExtras ts).1 ++ (splitExtras ts).2 = ts := by
  rw [splitExtras_eq, ← List.reverse_append, List.takeWhile_append_dropWhile, List.reverse_reverse]

theorem getLast?_splitExtras (ts : List Tree) : (splitExtras ts).1.getLast? = headOf ts := by
  rw [splitExtras_eq, List.getLast?_reverse, headOf, List.find?_not_eq_head?_dropWhile]

theorem extra_of_mem_splitExtras (member : t ∈ (splitExtras ts).2) : t.extra = true := by
  rw [splitExtras_eq] at member
  exact List.mem_takeWhile_imp (List.mem_reverse.mp member)

theorem forall_splitExtras {p : Tree → Prop} (all : ∀ t ∈ ts, p t) :
    (∀ t ∈ (splitExtras ts).1, p t) ∧ ∀ t ∈ (splitExtras ts).2, p t := by
  rw [← splitExtras_append ts, List.forall_mem_append] at all
  exact all

end Rows

/-! ### Balancing -/

section Balance

variable {t : Tree}

theorem rotate_written (symbol : Symbol) (count : Nat) (written : t.Written) :
    (rotate symbol count t).Written ∧ (rotate symbol count t).symbol = t.symbol := by
  -- A rotation makes two nodes with symbols that were there, over trees that were there.
  fun_induction rotate symbol count t with
  | case1 => exact ⟨written, rfl⟩
  | case2 => exact ⟨written, rfl⟩
  | case3 count s c g grandchildren childRest rest wide moved child grandchild ih =>
    obtain ⟨first, others⟩ := List.forall_mem_cons.mp written.children
    obtain ⟨second, behind⟩ := List.forall_mem_cons.mp first.children
    have below := second.children
    have inChild : child.Written := by
      refine written_ofChildren first.symbol_ne (List.forall_mem_append.mpr ⟨fun t member => ?_, behind⟩)
      exact below t (List.mem_of_getLast? (Option.mem_toList.mp member))
    have inGrandchild : grandchild.Written := by
      refine written_ofChildren second.symbol_ne (List.forall_mem_append.mpr ⟨fun t member => ?_, ?_⟩)
      · exact below t (List.dropLast_subset _ member)
      · simpa using inChild
    exact ⟨written_ofChildren written.symbol_ne (List.forall_mem_cons.mpr ⟨(ih inGrandchild).1, others⟩), rfl⟩
  | case4 => exact ⟨written, rfl⟩

theorem rotateHalves_written (fuel count : Nat) (written : t.Written) :
    (rotateHalves fuel count t).Written ∧ (rotateHalves fuel count t).symbol = t.symbol := by
  induction fuel generalizing count t with
  | zero => exact ⟨written, rfl⟩
  | succ fuel ih =>
    rw [rotateHalves]
    split_ifs with done
    · exact ⟨written, rfl⟩
    · obtain ⟨now, same⟩ := rotate_written t.symbol count written
      obtain ⟨later, still⟩ := ih (count / 2) now
      exact ⟨later, still.trans same⟩

theorem flatten_written (written : t.Written) : t.flatten.Written ∧ t.flatten.symbol = t.symbol := by
  unfold flatten
  split
  · exact ⟨written, rfl⟩
  · dsimp only
    split_ifs with flat
    · exact ⟨written, rfl⟩
    · exact rotateHalves_written _ _ written

theorem balanceTo_written (depth : Nat) (written : t.Written) :
    (balanceTo depth t).Written ∧ (balanceTo depth t).symbol = t.symbol := by
  induction depth generalizing t with
  | zero => exact ⟨written, rfl⟩
  | succ depth ih =>
    obtain ⟨flat, same⟩ := flatten_written written
    -- All nodes keep their symbols, however deep the balancing goes.
    rw [balanceTo, ← same]
    cases here : t.flatten with
    | leaf l =>
      rw [here] at flat
      exact ⟨flat, rfl⟩
    | node s ts =>
      rw [here] at flat
      refine ⟨.node flat.symbol_ne fun u member => ?_, rfl⟩
      obtain ⟨v, below, rfl⟩ := List.mem_map.mp member
      exact (ih (flat.children v below)).1

theorem IsRoot.balance (root : t.IsRoot) : t.balance.IsRoot := by
  obtain ⟨written, same⟩ := balanceTo_written t.count root.written
  exact ⟨written, same ▸ root.symbol⟩

end Balance

end Ucode.Tree

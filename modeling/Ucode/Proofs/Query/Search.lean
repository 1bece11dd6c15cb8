import Mathlib.Data.List.Perm.Basic
import Mathlib.Tactic.SplitIfs
import Ucode.Query.Capture

/-!
# How a query searches

A search goes along the steps that lead to a node, and through the children of a node in their order. It starts at each node of
an outline: these are all nodes that are seen, and each but the topmost one is a child of one of them (`Outline.perm_placed`).
-/
namespace Ucode

open scoped List

/-! ### Searching along steps -/

namespace NodeInfo

/-- What a search has seen behind one more step. -/
def searchStep (found : Option Field × Bool) (step : Step) : Option Field × Bool :=
  if step.extra then found
  else
    let production := Production.get step.production
    let field := found.1 <|> production.field? step.part
    (field, found.2 || field.any (production.hasLater · step.part))

/-- What a search sees along some steps. -/
def searchAlong (steps : List Step) : Option Field × Bool := steps.foldl searchStep (none, false)

theorem searchField_eq (n : NodeInfo) : n.searchField = searchAlong n.steps := rfl

section Search

variable {inner outer steps : List Step} {found : Option Field × Bool} {f : Field} {production part : Nat}

theorem foldl_found (seen : found.1 = some f) : (outer.foldl searchStep found).1 = some f := by
  induction outer generalizing found with
  | nil => exact seen
  | cons step outer ih =>
    refine ih ?_
    unfold searchStep
    split_ifs
    · exact seen
    · simp [seen]

theorem foldl_later (goes : found.2 = true) : (outer.foldl searchStep found).2 = true := by
  induction outer generalizing found with
  | nil => exact goes
  | cons step outer ih =>
    refine ih ?_
    unfold searchStep
    split_ifs
    · exact goes
    · simp [goes]

theorem searchAlong_append (seen : (searchAlong inner).1 = some f) : (searchAlong (inner ++ outer)).1 = some f := by
  rw [searchAlong, List.foldl_append]
  exact foldl_found seen

/-- A part is in a field of its own, unless it is seen in one before. -/
theorem searchAlong_field (field : (Production.get production).field? part = some f) :
    (searchAlong [⟨production, part, false⟩]).1 = some f := by
  rw [searchAlong, List.foldl_cons, List.foldl_nil, searchStep, if_neg Bool.false_ne_true]
  dsimp only
  rw [field]
  rfl

theorem searchAlong_later (seen : (searchAlong (inner ++ [⟨production, part, false⟩])).1 = some f)
    (later : (Production.get production).hasLater f part = true) :
    (searchAlong (inner ++ ⟨production, part, false⟩ :: outer)).2 = true := by
  rw [searchAlong, List.append_cons, List.foldl_append]
  apply foldl_later
  rw [searchAlong, List.foldl_append, List.foldl_cons, List.foldl_nil] at seen
  rw [List.foldl_append, List.foldl_cons, List.foldl_nil]
  -- Only the step itself counts: what it sees is the field, and the rule has that field later.
  generalize inner.foldl searchStep (none, false) = found at seen ⊢
  unfold searchStep at seen ⊢
  rw [if_neg Bool.false_ne_true] at seen ⊢
  dsimp only at seen ⊢
  rw [seen, Option.any_some, later, Bool.or_true]

/-- A search sees the node in a field, at the latest in a part of a rule. -/
def InField (n : NodeInfo) (production part : Nat) (above : List Step) (f : Field) : Prop :=
  ∃ inner, n.steps = inner ++ ⟨production, part, false⟩ :: above ∧
    (searchAlong (inner ++ [⟨production, part, false⟩])).1 = some f

theorem InField.searchField {n : NodeInfo} (inField : n.InField production part steps f) : n.searchField.1 = some f := by
  obtain ⟨inner, own, seen⟩ := inField
  rw [searchField_eq, own, List.append_cons]
  exact searchAlong_append seen

theorem InField.later {n : NodeInfo} (inField : n.InField production part steps f)
    (later : (Production.get production).hasLater f part = true) : n.searchField.2 = true := by
  obtain ⟨inner, own, seen⟩ := inField
  rw [searchField_eq, own]
  exact searchAlong_later seen later

end Search

end NodeInfo

/-! ### Searching among children -/

namespace Query

section Ends

variable {s : String} {kind : NodeKind} {os : List Outline}

/-- A search ends with a child that it sees in the field, and goes on behind others, or if there can be more in the field. -/
theorem endsAmong_cons (o : Outline) {sees : Bool} (own : (o.info.searchField.1.bind Field.name? == some s) = sees) :
    endsAmong s kind [] (o :: os) = (if sees && o.info.isOf kind then [o.info] else []) ++
      if !sees || o.info.searchField.2 then endsAmong s kind [] os else [] := by
  subst own
  rw [endsAmong]
  dsimp only
  cases o
  rw [endsFrom]
  split_ifs <;> rfl

theorem isOf_of_mem_endsAmong {n : NodeInfo} (member : n ∈ endsAmong s kind [] os) :
    ∃ o ∈ os, o.info = n ∧ n.isOf kind = true := by
  induction os with
  | nil =>
    rw [endsAmong] at member
    cases member
  | cons o os ih =>
    rw [endsAmong_cons o rfl] at member
    -- It is the first of the outlines, or the search has gone on and ended with it further behind.
    rcases List.mem_append.mp member with here | later
    · split_ifs at here with fits
      · rw [List.mem_singleton] at here
        subst here
        exact ⟨o, List.mem_cons_self, rfl, (Bool.and_eq_true_iff.mp fits).2⟩
      · cases here
    · split_ifs at later
      · obtain ⟨o', among, own⟩ := ih later
        exact ⟨o', List.mem_cons_of_mem o among, own⟩
      · cases later

end Ends

end Query

/-! ### Nodes and the nodes above them -/

namespace Outline

/-- A property of a node holds of all nodes of an outline. -/
inductive All (P : Outline → Prop) : Outline → Prop
  | node {info : NodeInfo} {children : List Outline} (here : P (node info children)) (below : ∀ c ∈ children, All P c) :
      All P (node info children)

mutual
/-- All nodes of an outline, each with the node right above it. -/
def placed (above : Option NodeInfo) : Outline → List (Option NodeInfo × NodeInfo)
  | node info children => (above, info) :: placedEach (some info) children

/-- All nodes of some outlines, each with the node right above it. -/
def placedEach (above : Option NodeInfo) : List Outline → List (Option NodeInfo × NodeInfo)
  | [] => []
  | o :: os => o.placed above ++ placedEach above os
end

/-- The nodes right below a node, each with that node. -/
def placedBelow (o : Outline) : List (Option NodeInfo × NodeInfo) := o.children.map fun c => (some o.info, c.info)

open Query (nodesInto nodesAmong)

mutual
/-- Each node but the topmost one is right below one of the nodes. -/
theorem perm_placed (above : Option NodeInfo) (found : List Outline) (o : Outline) :
    o.placed above ++ found.flatMap placedBelow ~ (above, o.info) :: (nodesInto found o).flatMap placedBelow := by
  cases o with
  | node info children =>
    have inside := perm_placedEach (some info) (node info children :: found) children
    rw [placed, nodesInto, List.cons_append]
    refine List.Perm.cons _ ?_
    -- The node is found before its children, so what is right below it stands on both sides and can be left out.
    rw [List.flatMap_cons] at inside
    refine (List.perm_append_left_iff (placedBelow (node info children))).mp (List.Perm.trans ?_ inside)
    exact List.perm_append_comm_assoc ..

theorem perm_placedEach (above : Option NodeInfo) (found : List Outline) (os : List Outline) :
    placedEach above os ++ found.flatMap placedBelow ~
      os.map (fun o => (above, o.info)) ++ (nodesAmong found os).flatMap placedBelow := by
  cases os with
  | nil => rw [placedEach, nodesAmong, List.map_nil]
  | cons o os =>
    have first := perm_placed above found o
    have others := perm_placedEach above (nodesInto found o) os
    rw [placedEach, nodesAmong, List.map_cons]
    -- The outlines are searched one after the other, each on top of what has been found.
    calc (o.placed above ++ placedEach above os ++ found.flatMap placedBelow)
      _ = o.placed above ++ (placedEach above os ++ found.flatMap placedBelow) := List.append_assoc ..
      _ ~ placedEach above os ++ (o.placed above ++ found.flatMap placedBelow) := List.perm_append_comm_assoc ..
      _ ~ placedEach above os ++ (above, o.info) :: (nodesInto found o).flatMap placedBelow := first.append_left _
      _ ~ (above, o.info) :: (placedEach above os ++ (nodesInto found o).flatMap placedBelow) := List.perm_middle
      _ ~ (above, o.info) :: (os.map _ ++ (nodesAmong (nodesInto found o) os).flatMap placedBelow) := others.cons _
end

mutual
theorem All.nodesInto {P : Outline → Prop} {o : Outline} (all : o.All P) (found : List Outline)
    (before : ∀ n ∈ found, P n) : ∀ n ∈ Query.nodesInto found o, P n := by
  cases all with
  | node here below =>
    rw [Query.nodesInto]
    exact nodesAmong_forall below _ (List.forall_mem_cons.mpr ⟨here, before⟩)

theorem nodesAmong_forall {P : Outline → Prop} {os : List Outline} (all : ∀ o ∈ os, o.All P) (found : List Outline)
    (before : ∀ n ∈ found, P n) : ∀ n ∈ nodesAmong found os, P n := by
  cases os with
  | nil =>
    rw [nodesAmong]
    exact before
  | cons o os =>
    obtain ⟨first, others⟩ := List.forall_mem_cons.mp all
    rw [nodesAmong]
    exact nodesAmong_forall others _ (first.nodesInto found before)
end

end Outline

end Ucode

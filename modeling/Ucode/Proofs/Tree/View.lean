import Ucode.Grammar.NodeKind
import Ucode.Tree.Outline

/-!
# What is seen of a tree

A view is an outline without the symbols and the steps behind it: the kind of each node, the field it belongs to, where
it stands, and whether anything is wrong with it. An outline is computed from the top down, with the steps that lead to
each node; `Tree.views` computes the view of a tree from the views of its parts, which is the form that is proved from.
-/
namespace Ucode

/-- What is seen of one node. -/
structure Sight where
  kind : NodeKind
  /-- The field of the node above that it belongs to. -/
  field : Option Field
  start : Extent
  stop : Extent
  isMissing : Bool
  isExtra : Bool
  hasError : Bool
  deriving DecidableEq, Repr

/-- A node with all that is seen below it. -/
inductive View where
  | node (sight : Sight) (children : List View)

namespace View

def sight : View → Sight
  | node s _ => s

def children : View → List View
  | node _ vs => vs

/-- A node with which nothing is wrong. -/
def sound (kind : NodeKind) (field : Option Field) (start stop : Extent) (children : List View) : View :=
  .node ⟨kind, field, start, stop, false, false, false⟩ children

end View

/-- A node of an outline without the way that leads to it. -/
def NodeInfo.sight (n : NodeInfo) : Sight :=
  ⟨n.symbol.nodeKind, n.field?, n.start, n.stop, n.isMissing, n.isExtra, n.hasError⟩

namespace Outline

mutual
def view : Outline → View
  | node info children => .node info.sight (viewEach children)

def viewEach : List Outline → List View
  | [] => []
  | o :: os => o.view :: viewEach os
end

theorem viewEach_append (os ps : List Outline) : viewEach (os ++ ps) = viewEach os ++ viewEach ps := by
  induction os with
  | nil => rw [viewEach, List.nil_append, List.nil_append]
  | cons o os ih => rw [List.cons_append, viewEach, viewEach, ih, List.cons_append]

end Outline

namespace Tree

/-! ### Extents of rows of trees -/

/-- The extent of a row of trees. -/
def totals : List Tree → Extent
  | [] => Extent.zero
  | t :: ts => t.total + totals ts

theorem totals_append (ts us : List Tree) : totals (ts ++ us) = totals ts + totals us := by
  induction ts with
  | nil => exact (Extent.zero_add _).symm
  | cons t ts ih => rw [List.cons_append, totals, totals, ih, Extent.add_assoc]

theorem totals_singleton (t : Tree) : totals [t] = t.total := Extent.add_zero _

theorem foldl_total (ts : List Tree) (size : Extent) :
    ts.foldl (fun size t => size + t.total) size = size + totals ts := by
  induction ts generalizing size with
  | nil => exact (Extent.add_zero size).symm
  | cons t ts ih => rw [List.foldl_cons, ih, totals, Extent.add_assoc]

section OfChildren

variable (symbol : Symbol) (production : Nat) (t : Tree) (ts : List Tree) (extra : Bool)

theorem ofChildren_padding : (ofChildren symbol production (t :: ts) extra).padding = t.padding := rfl

theorem ofChildren_size : (ofChildren symbol production (t :: ts) extra).size = t.size + totals ts :=
  foldl_total ts t.size

theorem total_ofChildren : (ofChildren symbol production ts extra).total = totals ts := by
  cases ts with
  | nil => rfl
  | cons t ts => rw [total, ofChildren_padding, ofChildren_size, ← Extent.add_assoc, totals, total]

end OfChildren

/-! ### Views of trees -/

/-- What is seen of a tree behind a place, in its own guise or in that of an alias. -/
def sight (t : Tree) (guise : Option Symbol) (field : Option Field) (before : Extent) : Sight :=
  ⟨(guise.getD t.symbol).nodeKind, field, before + t.padding, before + t.padding + t.size, t.isMissing, t.extra,
    0 < t.errorCost⟩

/-- The field of what is seen in a part of a rule: that of the part itself, or else the one the rule stands in. -/
def fieldIn (production part : Nat) (extra : Bool) (field : Option Field) : Option Field :=
  if extra then none else ((Production.get production).field? part).or field

mutual
/-- The views of a tree behind a place, which stands in a field: of the tree itself, or of those inside it. -/
def views (guise : Option Symbol) (field : Option Field) (before : Extent) : Tree → List View
  | leaf l =>
    if guise.isSome || l.symbol.isVisible then [.node ((leaf l).sight guise field before) []] else []
  | node s ts =>
    if guise.isSome || s.symbol.isVisible then
      [.node ((node s ts).sight guise field before) (viewsOf s.production 0 none before ts)]
    else viewsOf s.production 0 field before ts

/-- The views of the parts of a rule, from one part on. -/
def viewsOf (production part : Nat) (field : Option Field) (before : Extent) : List Tree → List View
  | [] => []
  | t :: ts =>
    let guise := if t.extra then none else (Production.get production).alias? part
    views guise (fieldIn production part t.extra field) before t ++
      viewsOf production (if t.extra then part else part + 1) field (before + t.total) ts
end

/-- What is seen of a whole tree. -/
def view (t : Tree) : View := t.outline.view

theorem fieldAlong_cons (production part : Nat) (extra : Bool) (steps : List Step) :
    NodeInfo.fieldAlong (⟨production, part, extra⟩ :: steps) =
      fieldIn production part extra (NodeInfo.fieldAlong steps) := by
  rw [NodeInfo.fieldAlong, fieldIn]

theorem nodeInfo_sight (t : Tree) (guise : Option Symbol) (steps : List Step) (before : Extent) :
    (t.nodeInfo guise steps before).sight = t.sight guise (NodeInfo.fieldAlong steps) before := rfl

mutual
theorem view_outlines (guise : Option Symbol) (steps : List Step) (before : Extent) (t : Tree) :
    Outline.viewEach (outlines guise steps before t) = views guise (NodeInfo.fieldAlong steps) before t := by
  cases t with
  | leaf l =>
    rw [outlines, views]
    split
    · simp only [Outline.viewEach, Outline.view, nodeInfo_sight]
    · rw [Outline.viewEach]
  | node s ts =>
    rw [outlines, views]
    split
    · simp only [Outline.viewEach, Outline.view, nodeInfo_sight, view_outlinesOf, NodeInfo.fieldAlong]
    · exact view_outlinesOf s.production 0 steps before ts

theorem view_outlinesOf (production part : Nat) (steps : List Step) (before : Extent) (ts : List Tree) :
    Outline.viewEach (outlinesOf production part steps before ts) =
      viewsOf production part (NodeInfo.fieldAlong steps) before ts := by
  cases ts with
  | nil => rw [outlinesOf, viewsOf, Outline.viewEach]
  | cons t ts =>
    rw [outlinesOf, viewsOf, Outline.viewEach_append, view_outlines, view_outlinesOf, fieldAlong_cons]
end

theorem view_eq (t : Tree) : t.view =
    .node (t.sight none none Extent.zero) (viewsOf t.production 0 none Extent.zero t.children) := by
  rw [view, outline, Outline.view, nodeInfo_sight, view_outlinesOf]
  rfl

/-- A whole tree is seen in its own guise, also if its symbol is hidden. -/
theorem views_whole (t : Tree) : views (some t.symbol) none Extent.zero t = [t.view] := by
  rw [view_eq]
  cases t with
  | leaf l => rw [views, children, viewsOf]; rfl
  | node s ts => rw [views]; rfl

section Node

variable (symbol : Symbol) (production : Nat) (ts : List Tree) (extra : Bool) (field : Option Field) (before : Extent)

theorem views_ofChildren (guise : Option Symbol) : views guise field before (ofChildren symbol production ts extra) =
    if guise.isSome || symbol.isVisible then
      [.node ((ofChildren symbol production ts extra).sight guise field before) (viewsOf production 0 none before ts)]
    else viewsOf production 0 field before ts := by
  rw [ofChildren, views]

/-- A hidden node shows what its parts show. -/
theorem views_hidden (hidden : symbol.isVisible = false) :
    views none field before (ofChildren symbol production ts extra) = viewsOf production 0 field before ts := by
  rw [views_ofChildren, hidden]
  rfl

end Node

end Tree
end Ucode

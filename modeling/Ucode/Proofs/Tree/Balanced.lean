import Ucode.Proofs.Tree.View
import Ucode.Tree.Balance

/-!
# Balancing is not seen

Balancing moves trees between the hidden nodes of a repetition. As long as those nodes neither name nor rename their
parts, nothing of it can be seen: a sound tree and its balanced form have the same view.
-/
namespace Ucode

namespace Production

/-- The production says nothing about its parts. -/
structure Plain (p : Production) : Prop where
  field : ∀ part, p.field? part = none
  guise : ∀ part, p.alias? part = none

theorem plain_zero : (get 0).Plain := by
  obtain ⟨fields, aliases⟩ : (get 0).fields = [] ∧ (get 0).aliases = [] := by decide +kernel
  constructor
  · intro part
    rw [field?, fields, List.find?_nil, Option.map_none]
  · intro part
    rw [alias?, aliases, List.lookup_nil]

end Production

namespace Extent

theorem add_left_cancel {a b c : Extent} (same : a + b = a + c) : b = c := by
  have points := congrArg points same
  have bytes := congrArg bytes same
  have rows := congrArg rows same
  have column := congrArg column same
  simp only [add_def, Nat.add_left_cancel_iff] at points bytes rows column
  -- The column is that of the second extent alone if it begins a row, and a sum otherwise.
  rw [rows] at column
  cases b with
  | mk points' bytes' rows' column' =>
    cases c
    simp only at points bytes rows column
    subst points bytes rows
    split at column
    · rw [Nat.add_left_cancel column]
    · rw [column]

end Extent

namespace Tree

/-- Nothing is in error in the tree, no node of it is an extra, and the nodes of repetitions only group their parts. -/
inductive Sound : Tree → Prop
  | leaf {l : Leaf} (present : l.isMissing = false) : Sound (leaf l)
  | node {s : Summary} {ts : List Tree} (built : node s ts = ofChildren s.symbol s.production ts false)
      (read : isSkipped s.symbol = false)
      (plain : s.symbol.visibility = .auxiliary → (Production.get s.production).Plain)
      (inside : ∀ t ∈ ts, Sound t) : Sound (node s ts)

section Sound

variable {symbol : Symbol} {t : Tree} {ts us : List Tree}

theorem sound_ofChildren {production : Nat} (read : isSkipped symbol = false)
    (plain : symbol.visibility = .auxiliary → (Production.get production).Plain) (inside : ∀ t ∈ ts, t.Sound) :
    (ofChildren symbol production ts false).Sound :=
  .node rfl read plain inside

theorem Sound.present (sound : t.Sound) : t.isMissing = false := by
  cases sound with
  | leaf present => exact present
  | node => rfl

theorem foldl_errorCost (production : Nat) (read : isSkipped symbol = false) (free : ∀ t ∈ ts, t.errorCost = 0)
    (tally : Tally) :
    (ts.foldl (Tally.add symbol (Production.get production)) tally).errorCost = tally.errorCost := by
  induction ts generalizing tally with
  | nil => rfl
  | cons t ts ih =>
    obtain ⟨first, others⟩ := List.forall_mem_cons.mp free
    rw [List.foldl_cons, ih others]
    simp [Tally.add, first, read]

theorem Sound.errorCost (sound : t.Sound) : t.errorCost = 0 := by
  induction sound with
  | leaf present =>
    rw [Tree.errorCost, Leaf.errorCost, if_neg]
    rw [present]
    exact Bool.false_ne_true
  | @node s ts built read _ _ ih =>
    have tally := foldl_errorCost s.production read ih ⟨0, 0, 0, 0⟩
    rw [built]
    simp [Tree.errorCost, ofChildren, tally, read]

end Sound

/-! ### Rows of parts -/

/-- What is seen of a row of trees that are only grouped. -/
def row (field : Option Field) (before : Extent) (ts : List Tree) : List View := viewsOf 0 0 field before ts

section Row

variable {field : Option Field} {before : Extent} {production part : Nat} {t : Tree} {ts us : List Tree}

/-- Of several plain productions each shows a row of parts in the same way, and from any part on. -/
theorem viewsOf_congr_plain {other : Nat} (plain : (Production.get production).Plain) (plain' : (Production.get other).Plain)
    (part' : Nat) : viewsOf production part field before ts = viewsOf other part' field before ts := by
  induction ts generalizing before part part' with
  | nil => rw [viewsOf, viewsOf]
  | cons t ts ih =>
    simp only [viewsOf, fieldIn, plain.field, plain.guise, plain'.field, plain'.guise]
    rw [ih]

theorem viewsOf_plain (plain : (Production.get production).Plain) :
    viewsOf production part field before ts = row field before ts :=
  viewsOf_congr_plain plain Production.plain_zero 0

theorem row_nil : row field before [] = [] := by rw [row, viewsOf]

theorem row_cons : row field before (t :: ts) =
    views none (if t.extra then none else field) before t ++ row field (before + t.total) ts := by
  rw [row, viewsOf, viewsOf_plain Production.plain_zero]
  simp only [fieldIn, Production.plain_zero.field, Production.plain_zero.guise, Option.none_or, ite_self]

theorem row_append : row field before (ts ++ us) = row field before ts ++ row field (before + totals ts) us := by
  induction ts generalizing before with
  | nil => rw [totals, Extent.add_zero, row_nil, List.nil_append, List.nil_append]
  | cons t ts ih => rw [List.cons_append, row_cons, ih, row_cons, totals, Extent.add_assoc, List.append_assoc]

end Row

/-! ### Trees that are seen alike -/

/-- In every guise and at every place the second tree shows what the first one does. -/
structure Alike (t u : Tree) : Prop where
  symbol : u.symbol = t.symbol
  extra : u.extra = t.extra
  present : u.isMissing = t.isMissing
  padding : u.padding = t.padding
  size : u.size = t.size
  errorCost : u.errorCost = t.errorCost
  shown : ∀ guise field before, views guise field before u = views guise field before t

section Alike

variable {t u v : Tree} {ts us : List Tree}

theorem Alike.refl (t : Tree) : t.Alike t := ⟨rfl, rfl, rfl, rfl, rfl, rfl, fun _ _ _ => rfl⟩

theorem Alike.trans (first : t.Alike u) (second : u.Alike v) : t.Alike v where
  symbol := second.symbol.trans first.symbol
  extra := second.extra.trans first.extra
  present := second.present.trans first.present
  padding := second.padding.trans first.padding
  size := second.size.trans first.size
  errorCost := second.errorCost.trans first.errorCost
  shown guise field before := (second.shown guise field before).trans (first.shown guise field before)

theorem Alike.total (alike : t.Alike u) : u.total = t.total := by
  rw [Tree.total, Tree.total, alike.padding, alike.size]

theorem Alike.row_cons (alike : t.Alike u) (field : Option Field) (before : Extent) :
    row field before (u :: ts) = row field before (t :: ts) := by
  rw [Tree.row_cons, Tree.row_cons, alike.extra, alike.shown, alike.total]

theorem alike_ofChildren {symbol : Symbol} {p q : Nat} (sound : (ofChildren symbol p (t :: ts) false).Sound)
    (sound' : (ofChildren symbol q (u :: us) false).Sound) (plain : (Production.get p).Plain)
    (plain' : (Production.get q).Plain) (padding : u.padding = t.padding) (same : totals (u :: us) = totals (t :: ts))
    (shown : ∀ field before, row field before (u :: us) = row field before (t :: ts)) :
    (ofChildren symbol p (t :: ts) false).Alike (ofChildren symbol q (u :: us) false) := by
  have total : (ofChildren symbol q (u :: us) false).total = (ofChildren symbol p (t :: ts) false).total := by
    rw [total_ofChildren, total_ofChildren, same]
  have size : (ofChildren symbol q (u :: us) false).size = (ofChildren symbol p (t :: ts) false).size := by
    rw [Tree.total, Tree.total, ofChildren_padding, ofChildren_padding, padding] at total
    exact Extent.add_left_cancel total
  have cost : (ofChildren symbol q (u :: us) false).errorCost = (ofChildren symbol p (t :: ts) false).errorCost := by
    rw [sound.errorCost, sound'.errorCost]
  refine ⟨rfl, rfl, rfl, padding, size, cost, ?_⟩
  -- In a guise the node itself is seen, over the same row; without one only the row is.
  intro guise field before
  have sight : (ofChildren symbol q (u :: us) false).sight guise field before =
      (ofChildren symbol p (t :: ts) false).sight guise field before := by
    rw [Tree.sight, Tree.sight, ofChildren_padding, ofChildren_padding, padding, size, cost]
    rfl
  simp only [views_ofChildren, viewsOf_plain plain, viewsOf_plain plain', shown, sight]

end Alike

/-! ### Rotations -/

section Rotate

variable {symbol : Symbol} {production : Nat} {s c g : Summary} {t last : Tree} {ts front childRest rest : List Tree}

theorem Sound.extra (sound : (Tree.node s ts).Sound) : s.extra = false := by
  cases sound with
  | node built => exact congrArg Tree.extra built

theorem hidden_of_auxiliary (auxiliary : symbol.visibility = .auxiliary) : symbol.isVisible = false := by
  rw [Symbol.isVisible, auxiliary]
  rfl

theorem row_group (auxiliary : symbol.visibility = .auxiliary) (plain : (Production.get production).Plain)
    (field : Option Field) (before : Extent) :
    row field before [ofChildren symbol production ts false] = row field before ts := by
  have hidden := hidden_of_auxiliary auxiliary
  rw [row_cons, row_nil, List.append_nil, views_hidden _ _ _ _ _ _ hidden, viewsOf_plain plain]
  rfl

/-- One rotation moves the last grandchild down. What is seen is still the grandchildren and then the other children. -/
theorem rotate_once (auxiliary : symbol.visibility = .auxiliary) (child : c.symbol = symbol) (grandchild : g.symbol = symbol)
    (sound : (Tree.node c (Tree.node g (t :: front ++ [last]) :: childRest)).Sound) :
    let upper := ofChildren g.symbol g.production
      (t :: front ++ [ofChildren c.symbol c.production (last :: childRest) false]) false
    upper.Sound ∧ (Tree.node c (Tree.node g (t :: front ++ [last]) :: childRest)).Alike upper := by
  intro upper
  cases sound with
  | node built read plain inside =>
    obtain ⟨first, others⟩ := List.forall_mem_cons.mp inside
    cases first with
    | node built' read' plain' inside' =>
      have auxiliaryC : c.symbol.visibility = .auxiliary := child ▸ auxiliary
      have auxiliaryG : g.symbol.visibility = .auxiliary := grandchild ▸ auxiliary
      -- The lower of the new nodes is made of parts of both old ones, the upper one of parts of the grandchild and the lower.
      have soundLower : (ofChildren c.symbol c.production (last :: childRest) false).Sound := by
        apply sound_ofChildren read plain
        intro u member
        rcases List.mem_cons.mp member with rfl | member
        · exact inside' u (by simp)
        · exact others u member
      have soundUpper : upper.Sound := by
        apply sound_ofChildren read' plain'
        intro u member
        rcases List.mem_append.mp member with member | member
        · exact inside' u (List.mem_append_left _ member)
        · rw [List.mem_singleton.mp member]
          exact soundLower
      have whole : (Tree.node c (Tree.node g (t :: front ++ [last]) :: childRest)).Sound :=
        .node built read plain inside
      refine ⟨soundUpper, ?_⟩
      -- Both sides become nodes of one symbol, so only their rows are left to be compared.
      rw [built, built'] at whole ⊢
      rw [child, ← grandchild] at whole ⊢
      apply alike_ofChildren whole soundUpper (plain auxiliaryC) (plain' auxiliaryG)
      · rfl
      · simp only [total_ofChildren, totals_append, totals, List.append_eq, Extent.add_assoc, Extent.add_zero]
      · intro field before
        have opened : row field before (ofChildren g.symbol g.production (t :: front ++ [last]) false :: childRest) =
            row field before (t :: front ++ [last] ++ childRest) := by
          rw [← List.singleton_append, row_append, row_group auxiliaryG (plain' auxiliaryG), totals_singleton,
            total_ofChildren, ← row_append]
        have moved : row field before
            (t :: front ++ [ofChildren c.symbol c.production (last :: childRest) false]) =
              row field before (t :: front ++ (last :: childRest)) := by
          rw [row_append, row_group auxiliaryC (plain auxiliaryC), ← row_append]
        rw [opened, List.append_assoc, List.singleton_append]
        exact moved

theorem exists_ends (ts : List Tree) (two : 2 ≤ ts.length) : ∃ t front last, ts = t :: front ++ [last] := by
  obtain ⟨t, others, rfl⟩ := List.exists_cons_of_length_pos (show 0 < ts.length by omega)
  have proper : others ≠ [] := by
    rintro rfl
    simp at two
  exact ⟨t, others.dropLast, others.getLast proper, by rw [List.cons_append, List.dropLast_concat_getLast proper]⟩

/-- Rotating a chain keeps it sound and is not seen. -/
theorem rotate_alike (auxiliary : symbol.visibility = .auxiliary) (count : Nat) (t : Tree) (own : t.symbol = symbol)
    (sound : t.Sound) : (rotate symbol count t).Sound ∧ t.Alike (rotate symbol count t) := by
  -- One rotation lifts the grandchild, and the recursion goes on below it.
  fun_induction rotate symbol count t with
  | case1 => exact ⟨sound, Alike.refl _⟩
  | case2 => exact ⟨sound, Alike.refl _⟩
  | case3 count s c g grandchildren childRest rest wide moved child grandchild ih =>
    simp only [not_or, Nat.not_lt, ne_eq, Decidable.not_not] at wide
    obtain ⟨_, _, two, sameC, sameG⟩ := wide
    obtain ⟨first, front, last, rfl⟩ := exists_ends grandchildren two
    have extra := sound.extra
    cases sound with
    | node built read plain inside =>
      obtain ⟨soundC, soundRest⟩ := List.forall_mem_cons.mp inside
      have extraG : g.extra = false := by
        cases soundC with
        | node _ _ _ within => exact (within _ (List.mem_cons_self ..)).extra
      obtain ⟨soundUpper, alikeUpper⟩ := rotate_once auxiliary sameC sameG soundC
      have upper : grandchild = ofChildren g.symbol g.production
          (first :: front ++ [ofChildren c.symbol c.production (last :: childRest) false]) false := by
        simp only [grandchild, child, moved, withChildren, Tree.symbol, Tree.production, Tree.extra, soundC.extra, extraG,
          List.dropLast_concat, List.getLast?_concat, Option.toList_some, List.singleton_append]
      rw [← upper] at soundUpper alikeUpper
      obtain ⟨soundR, alikeR⟩ := ih sameG soundUpper
      have soundResult : (ofChildren s.symbol s.production (rotate symbol count grandchild :: rest) false).Sound :=
        sound_ofChildren read plain (List.forall_mem_cons.mpr ⟨soundR, soundRest⟩)
      have result : (node s []).withChildren (rotate symbol count grandchild :: rest) =
          ofChildren s.symbol s.production (rotate symbol count grandchild :: rest) false := by
        rw [withChildren, Tree.extra, extra]
        rfl
      have plainS := plain ((congrArg Symbol.visibility own).trans auxiliary)
      have alikeC := alikeUpper.trans alikeR
      rw [result]
      refine ⟨soundResult, ?_⟩
      rw [built]
      apply alike_ofChildren (built ▸ .node built read plain inside) soundResult plainS plainS
      · exact alikeC.padding
      · rw [totals, totals, alikeC.total]
      · intro field before
        exact alikeC.row_cons field before
  | case4 => exact ⟨sound, Alike.refl _⟩

theorem rotateHalves_alike (auxiliary : symbol.visibility = .auxiliary) (fuel count : Nat) (own : t.symbol = symbol)
    (sound : t.Sound) : (rotateHalves fuel count t).Sound ∧ t.Alike (rotateHalves fuel count t) := by
  induction fuel generalizing count t with
  | zero =>
    rw [rotateHalves]
    exact ⟨sound, Alike.refl t⟩
  | succ fuel ih =>
    rw [rotateHalves]
    split
    · exact ⟨sound, Alike.refl t⟩
    · rw [own]
      obtain ⟨soundR, alikeR⟩ := rotate_alike auxiliary count t own sound
      obtain ⟨soundH, alikeH⟩ := ih (count / 2) (alikeR.symbol.trans own) soundR
      exact ⟨soundH, alikeR.trans alikeH⟩

theorem Sound.auxiliary (sound : t.Sound) (deep : t.repeatDepth ≠ 0) : t.symbol.visibility = .auxiliary := by
  cases sound with
  | leaf => exact absurd rfl deep
  | @node s ts built =>
    have depth : (Tree.node s ts).repeatDepth = repetition s.symbol ts := congrArg Tree.repeatDepth built
    rw [depth] at deep
    unfold repetition at deep
    split at deep
    · by_cases grouping : s.symbol.visibility = .auxiliary
      · exact grouping
      · exact absurd (if_neg (fun both => grouping both.1)) deep
    · exact absurd rfl deep

theorem flatten_alike (sound : t.Sound) : t.flatten.Sound ∧ t.Alike t.flatten := by
  unfold flatten
  split
  · exact ⟨sound, Alike.refl t⟩
  · dsimp only
    split
    · exact ⟨sound, Alike.refl t⟩
    · next deep => exact rotateHalves_alike (sound.auxiliary deep) _ _ rfl sound

end Rotate

/-! ### Whole trees -/

section Whole

variable {t : Tree} {ts : List Tree}

theorem viewsOf_congr (f : Tree → Tree) (alike : ∀ t ∈ ts, t.Alike (f t)) (production part : Nat) (field : Option Field)
    (before : Extent) : viewsOf production part field before (ts.map f) = viewsOf production part field before ts := by
  induction ts generalizing part before with
  | nil => rfl
  | cons t ts ih =>
    obtain ⟨first, others⟩ := List.forall_mem_cons.mp alike
    rw [List.map_cons, viewsOf, viewsOf, first.extra, first.shown, first.total]
    simp only [ih others]

theorem balanceTo_alike (depth : Nat) (sound : t.Sound) : t.Alike (balanceTo depth t) := by
  induction depth generalizing t with
  | zero =>
    rw [balanceTo]
    exact Alike.refl t
  | succ depth ih =>
    obtain ⟨soundF, alikeF⟩ := flatten_alike sound
    rw [balanceTo]
    apply alikeF.trans
    -- The trees below are balanced each on its own, so the node shows the same parts.
    generalize t.flatten = flat at soundF
    cases soundF with
    | leaf => exact Alike.refl _
    | @node s ts built read plain inside =>
      refine ⟨rfl, rfl, rfl, rfl, rfl, rfl, ?_⟩
      intro guise field before
      have parts := viewsOf_congr (balanceTo depth) (fun t member => ih (inside t member))
      rw [views, views, parts, parts]
      rfl

theorem view_balance (sound : t.Sound) : t.balance.view = t.view := by
  have alike := balanceTo_alike t.count sound
  have whole := alike.shown (some t.symbol) none Extent.zero
  rw [← alike.symbol, views_whole, alike.symbol, views_whole] at whole
  exact List.head_eq_of_cons_eq whole

end Whole
end Tree
end Ucode

import Ucode.Proofs.Tree.Tidy
import Ucode.Proofs.Query.Search

/-!
# Where names are seen

A name is reached through several hidden rules, and a search through a query sees it in the nearest field on the way. What
each rule takes tells which fields these are (`Tidy.leads`), that nothing else is seen in them where names are looked
for (`Tidy.quiet`), and that of two names in one field the first one lets the search go on (`Tidy.pairwise`). So
in the outline of a tidy tree only declarations, also exported ones, and loops have names right below them
(`Tidy.all_wellNamed`).
-/
namespace Ucode

/-! ### Names in an outline -/

namespace NodeInfo

section Quiet

variable {steps : List Step}

/-- No field on the way is one for names. -/
def Quiet (steps : List Step) : Prop :=
  ∀ step ∈ steps, step.extra = false → ∀ f ∈ (Production.get step.production).field? step.part, f.isNaming = false

theorem quiet_cons {step : Step} (quiet : Quiet steps)
    (field : step.extra = false → ((Production.get step.production).field? step.part).any Field.isNaming = false) :
    Quiet (step :: steps) := by
  refine List.forall_mem_cons.mpr ⟨fun plain f here => ?_, quiet⟩
  have none := field plain
  rwa [Option.mem_def.mp here] at none

theorem searchAlong_quiet (quiet : Quiet steps) : ∀ f ∈ (searchAlong steps).1, f.isNaming = false := by
  -- By induction on the steps, whatever has been seen before them.
  have all : ∀ (steps : List Step) (found : Option Field × Bool), Quiet steps → (∀ f ∈ found.1, f.isNaming = false) →
      ∀ f ∈ (steps.foldl searchStep found).1, f.isNaming = false := by
    intro steps
    induction steps with
    | nil => exact fun found _ before => before
    | cons step steps ih =>
      intro found quiet before
      obtain ⟨first, others⟩ := List.forall_mem_cons.mp quiet
      refine ih _ others ?_
      unfold searchStep
      split_ifs with extra
      · exact before
      · intro f seen
        rcases Option.or_eq_some_iff.mp ((Option.orElse_eq_or ..).symm.trans seen) with old | ⟨_, new⟩
        · exact before f old
        · exact first (by simpa using extra) f new
  exact all steps (none, false) quiet fun _ none => nomatch none

end Quiet

/-- The node is a name that is declared. -/
def IsName (n : NodeInfo) : Prop := n.symbol = Symbol.variableName

instance (n : NodeInfo) : Decidable n.IsName := inferInstanceAs (Decidable (_ = _))

/-- If two names are in the same field, a search goes on behind the first one. -/
def LetsPass (n m : NodeInfo) : Prop :=
  n.IsName → m.IsName → n.searchField.1 = m.searchField.1 → n.searchField.2 = true

end NodeInfo

namespace Outline

/-- The names right below a node are those that a search finds in some fields. -/
structure Declares (o : Outline) (fields : List Field) : Prop where
  named : ∀ c ∈ o.children, c.info.IsName → ∃ f ∈ fields, c.info.searchField.1 = some f
  unnamed : ∀ c ∈ o.children, ¬ c.info.IsName → ∀ f ∈ c.info.searchField.1, f.isNaming = false
  inOrder : o.children.Pairwise (·.info.LetsPass ·.info)
  stop : ∀ c ∈ o.children, c.info.IsName → 0 < o.info.stop.bytes

/-- Only declarations and loops have names right below them. -/
inductive WellNamed (o : Outline) : Prop
  | unnamed (none : ∀ c ∈ o.children, ¬ c.info.IsName)
  | declaration (own : o.info.symbol ∈ [Symbol.declaration, Symbol.exportConst, Symbol.exportLet])
      (declares : o.Declares [Field.declared])
  | loop (own : o.info.symbol = Symbol.forStatement) (declares : o.Declares Field.iterated)

end Outline

namespace Tree

/-! ### Outlines of tidy trees -/

section Outlines

variable {t : Tree} {ts : List Tree} {guise : Option Symbol} {steps above : List Step} {before : Extent} {o : Outline}
  {symbol : Symbol} {production part : Nat}

theorem outlines_seen (seen : (guise.isSome || t.symbol.isVisible) = true) : outlines guise steps before t =
    [.node (t.nodeInfo guise steps before) (outlinesOf t.production 0 [] before t.children)] := by
  cases t with
  | leaf l => rw [outlines, children, outlinesOf]; exact if_pos seen
  | node s ts => rw [outlines]; exact if_pos seen

theorem outlines_hidden (hidden : t.symbol.isVisible = false) :
    outlines none steps before t = outlinesOf t.production 0 steps before t.children := by
  have unseen : ¬ ((none : Option Symbol).isSome || t.symbol.isVisible) = true := by simp [hidden]
  cases t with
  | leaf l => rw [outlines, children, outlinesOf]; exact if_neg unseen
  | node s ts => rw [outlines]; exact if_neg unseen

theorem Tidy.composes (tidy : t.Tidy) : Composes t.symbol t.production 0 t.children := by
  cases tidy with
  | leaf => trivial
  | node follows => exact follows.composes

theorem Tidy.children (tidy : t.Tidy) : ∀ u ∈ t.children, u.Tidy := by
  cases tidy with
  | leaf => exact fun u member => absurd member List.not_mem_nil
  | node _ inside => exact inside

theorem Tidy.known (tidy : t.Tidy) (proper : t.symbol ≠ Symbol.error) : t.symbol < Symbol.ruleCount := by
  cases tidy with
  | leaf known => exact Nat.lt_trans (known.resolve_right proper) (by decide)
  | node follows => exact follows.known

theorem Tidy.known_of_hidden (tidy : t.Tidy) (hidden : t.symbol.isVisible = false) : t.symbol < Symbol.ruleCount := by
  refine tidy.known fun error => ?_
  rw [error] at hidden
  exact absurd hidden (by decide)

/-- What holds of a tidy tree whenever it holds of the trees below it holds of all of them. -/
@[elab_as_elim]
theorem Tidy.induct {motive : (t : Tree) → t.Tidy → Prop}
    (step : ∀ t (tidy : t.Tidy), (∀ u (below : u ∈ t.children), motive u (tidy.children u below)) → motive t tidy)
    (tidy : t.Tidy) : motive t tidy := by
  induction tidy with
  | leaf known word => exact step _ (.leaf known word) fun u none => absurd none List.not_mem_nil
  | node follows inside ih => exact step _ (.node follows inside) ih

/-- How a node is seen in a part of a rule. -/
inductive SeenAt (symbol : Symbol) (production part : Nat) (above : List Step) (t : Tree) (o : Outline) : Prop
  | extra (steps : o.info.steps = ⟨production, part, true⟩ :: above) (unnamed : ¬ o.info.IsName)
  | guise {guise : Symbol} (shown : (Production.get production).alias? part = some guise)
      (taken : Production.takes symbol production part t.symbol.role = true)
      (steps : o.info.steps = ⟨production, part, false⟩ :: above) (unnamed : ¬ o.info.IsName)
  | own {before : Extent} (plain : t.extra = false) (own : (Production.get production).alias? part = none)
      (taken : Production.takes symbol production part t.symbol.role = true)
      (member : o ∈ outlines none (⟨production, part, false⟩ :: above) before t)

theorem seenAt_of_mem (tidy : t.Tidy) (taken : t.extra = false → Production.takes symbol production part t.symbol.role = true)
    (member : o ∈ outlines (if t.extra then none else (Production.get production).alias? part)
      (⟨production, part, t.extra⟩ :: above) before t) : SeenAt symbol production part above t o := by
  -- An extra is a token; any other part is shown in its own guise, or in that of an alias.
  cases extra : t.extra with
  | true =>
    obtain ⟨l, rfl⟩ := tidy.leaf_of_extra extra
    have known : l.symbol ≠ Symbol.variableName := by
      cases tidy with
      | leaf known =>
        rintro named
        rw [named] at known
        exact absurd known (by decide)
    rw [extra, if_pos rfl, outlines] at member
    split_ifs at member
    · rw [List.mem_singleton.mp member]
      exact .extra rfl known
    · cases member
  | false =>
    rw [extra, if_neg Bool.false_ne_true] at member
    cases shown : (Production.get production).alias? part with
    | none =>
      rw [shown] at member
      exact .own extra shown (taken extra) member
    | some guise =>
      rw [shown, outlines_seen rfl] at member
      rw [List.mem_singleton.mp member]
      exact .guise shown (taken extra) rfl (Production.alias_ne_variableName shown)

theorem exists_seenAt (composes : Composes symbol production part ts) (inside : ∀ t ∈ ts, t.Tidy)
    (member : o ∈ outlinesOf production part above before ts) :
    ∃ t ∈ ts, ∃ place, part ≤ place ∧ SeenAt symbol production place above t o := by
  -- Extras do not count, so the place of a part is found by passing over the parts before it.
  induction ts generalizing part before with
  | nil =>
    rw [outlinesOf] at member
    cases member
  | cons t ts ih =>
    obtain ⟨tidy, others⟩ := List.forall_mem_cons.mp inside
    rw [outlinesOf] at member
    rcases List.mem_append.mp member with first | later
    · exact ⟨t, List.mem_cons_self, part, Nat.le_refl part, seenAt_of_mem tidy composes.1 first⟩
    · obtain ⟨u, among, place, behind, seen⟩ := ih composes.2 others later
      refine ⟨u, List.mem_cons_of_mem t among, place, Nat.le_trans ?_ behind, seen⟩
      split_ifs
      · exact Nat.le_refl part
      · exact Nat.le_succ part

end Outlines

/-! ### In which fields names are seen -/

/-- A name inside a tree that no name has a guise in: it is the tree itself, or stands in a field on the way to the tree. -/
def Leads (t : Tree) (n : NodeInfo) (steps : List Step) : Prop :=
  (t.symbol.role = .name ∧ n.steps = steps) ∨
    ∃ inner, ∃ f ∈ t.symbol.role.fields, n.steps = inner ++ steps ∧ (NodeInfo.searchAlong inner).1 = some f

section Names

variable {t : Tree} {ts : List Tree} {steps above : List Step} {before : Extent} {o : Outline}
  {symbol : Symbol} {production part : Nat} {f : Field}

theorem SeenAt.plain (seen : SeenAt symbol production part above t o) (name : o.info.IsName) : t.extra = false := by
  cases seen with
  | extra _ unnamed => exact absurd name unnamed
  | guise _ _ _ unnamed => exact absurd name unnamed
  | own plain => exact plain

/-- A name in a part of a rule is seen in a field for names, and its place is reserved. -/
theorem SeenAt.named (seen : SeenAt symbol production part above t o) (name : o.info.IsName)
    (inside : ∀ {steps before}, o ∈ outlines none steps before t → t.Leads o.info steps) :
    ∃ f ∈ symbol.namingFields, o.info.InField production part above f ∧
      (¬ symbol.IsEarlier → (Production.get production).Reserves symbol part f) := by
  cases seen with
  | extra _ unnamed => exact absurd name unnamed
  | guise _ _ _ unnamed => exact absurd name unnamed
  | own _ own taken member =>
    -- In a name itself there is only a word, through which no name is seen.
    have notWord : t.symbol.role ≠ .word := by
      intro word
      rcases inside member with ⟨direct, _⟩ | ⟨_, f, among, _⟩
      · exact absurd (word.symm.trans direct) (by decide)
      · rw [word] at among
        cases among
    obtain ⟨held, _⟩ := Production.holds_of_takes taken own (Production.role_ne_name_of_takes taken notWord)
    rcases inside member with ⟨direct, steps⟩ | ⟨inner, f, among, steps, field⟩
    · rw [direct] at held
      obtain ⟨f, among, field, reserved⟩ := Production.field_of_holds held
      exact ⟨f, among, ⟨[], steps, NodeInfo.searchAlong_field field⟩, fun _ => reserved⟩
    · obtain ⟨among, reserved⟩ := Production.reserves_of_holds held among
      exact ⟨f, among, ⟨inner, steps, NodeInfo.searchAlong_append field⟩, reserved⟩

/-- A name inside a tidy tree is seen in a field that belongs to the tree's role, unless it is the tree itself. -/
theorem Tidy.leads (tidy : t.Tidy) (name : o.info.IsName) (member : o ∈ outlines none steps before t) :
    t.Leads o.info steps := by
  induction tidy using Tidy.induct generalizing steps before with
  | step t tidy ih =>
    cases visible : t.symbol.isVisible with
    | true =>
      rw [outlines_seen (by rw [visible]; rfl), List.mem_singleton] at member
      subst member
      have own : t.symbol = Symbol.variableName := name
      exact Or.inl ⟨by rw [own]; decide, rfl⟩
    | false =>
      -- A hidden rule adds the step to its part, and its fields are those of its role.
      rw [outlines_hidden visible] at member
      obtain ⟨u, among, part, _, seen⟩ := exists_seenAt tidy.composes tidy.children member
      obtain ⟨f, own, ⟨inner, steps, field⟩, _⟩ := seen.named name (ih u among)
      rw [Symbol.namingFields_of_role (Symbol.role_of_hidden (tidy.known_of_hidden visible) visible).1] at own
      exact Or.inr ⟨_, f, own, by rw [steps, List.append_cons], field⟩

theorem exists_field_of_isName (composes : Composes symbol production part ts) (inside : ∀ t ∈ ts, t.Tidy)
    (member : o ∈ outlinesOf production part above before ts) (name : o.info.IsName) :
    ∃ place, part ≤ place ∧ ∃ f ∈ symbol.namingFields, o.info.InField production place above f ∧
      (¬ symbol.IsEarlier → (Production.get production).Reserves symbol place f) := by
  obtain ⟨t, among, place, behind, seen⟩ := exists_seenAt composes inside member
  exact ⟨place, behind, seen.named name ((inside t among).leads name)⟩

theorem Tidy.isName_of_role (tidy : t.Tidy) (name : t.symbol.role = .name) (member : o ∈ outlines none steps before t) :
    o.info.IsName := by
  have proper : t.symbol ≠ Symbol.error := by
    intro error
    rw [error] at name
    exact absurd name (by decide)
  have own := Symbol.roleTable.name _ (tidy.known proper) name
  rw [outlines_seen (by rw [own]; exact Symbol.isVisible_of_sets (by decide) (by decide)), List.mem_singleton] at member
  subst member
  exact own

/-- Only names are seen in the fields for names, in the parts of a rule in which they are looked for. -/
theorem SeenAt.quiet (seen : SeenAt symbol production part above t o) (searched : symbol.isSearched = true)
    (other : symbol.role ≠ .name) (tidy : t.Tidy) (unnamed : ¬ o.info.IsName)
    (inside : t.symbol.role ≠ .function → ∀ {steps before}, o ∈ outlines none steps before t →
      ∃ inner, o.info.steps = inner ++ steps ∧ NodeInfo.Quiet inner) :
    ∃ inner, o.info.steps = inner ++ above ∧ NodeInfo.Quiet inner := by
  have nothing : NodeInfo.Quiet [] := fun step none => absurd none List.not_mem_nil
  cases seen with
  -- A search passes over the steps to extras.
  | extra steps _ => exact ⟨[_], steps, NodeInfo.quiet_cons nothing fun plain => absurd plain (by simp)⟩
  | guise shown taken steps _ =>
    obtain ⟨_, field⟩ := Production.quiet_of_takes taken shown other
    exact ⟨[_], steps, NodeInfo.quiet_cons nothing fun _ => field searched⟩
  | own _ own taken member =>
    obtain ⟨held, field⟩ := Production.holds_of_takes taken own other
    have notName : t.symbol.role ≠ .name := fun name => unnamed (tidy.isName_of_role name member)
    -- The name of a function is of another kind, but no rule in which names are looked for takes one.
    have notFunction : t.symbol.role ≠ .function := by
      intro function
      rw [function, Production.holds, searched] at held
      exact absurd held (by decide)
    obtain ⟨inner, steps, quiet⟩ := inside notFunction member
    refine ⟨inner ++ [⟨production, part, false⟩], by rw [steps, List.append_cons], ?_⟩
    exact List.forall_mem_append.mpr ⟨quiet, NodeInfo.quiet_cons nothing fun _ => field notName searched⟩

theorem Tidy.quiet (tidy : t.Tidy) (other : t.symbol.role ≠ .function) (unnamed : ¬ o.info.IsName)
    (member : o ∈ outlines none steps before t) : ∃ inner, o.info.steps = inner ++ steps ∧ NodeInfo.Quiet inner := by
  -- A visible tree is the node itself; a hidden one shows its parts, in which names are looked for as well.
  induction tidy using Tidy.induct generalizing steps before with
  | step t tidy ih =>
    cases visible : t.symbol.isVisible with
    | true =>
      rw [outlines_seen (by rw [visible]; rfl), List.mem_singleton] at member
      subst member
      exact ⟨[], rfl, fun step none => absurd none List.not_mem_nil⟩
    | false =>
      have known := tidy.known_of_hidden visible
      rw [outlines_hidden visible] at member
      obtain ⟨u, among, part, _, seen⟩ := exists_seenAt tidy.composes tidy.children member
      exact seen.quiet (Symbol.isSearched_of_hidden known visible other) (Symbol.role_of_hidden known visible).2
        (tidy.children u among) unnamed fun inside => ih u among inside

theorem isNaming_eq_false (searched : symbol.isSearched = true) (other : symbol.role ≠ .name)
    (composes : Composes symbol production part ts) (inside : ∀ t ∈ ts, t.Tidy)
    (member : o ∈ outlinesOf production part [] before ts) (unnamed : ¬ o.info.IsName) :
    ∀ f ∈ o.info.searchField.1, f.isNaming = false := by
  obtain ⟨t, among, place, _, seen⟩ := exists_seenAt composes inside member
  obtain ⟨inner, steps, quiet⟩ := seen.quiet searched other (inside t among) unnamed
    fun notFunction => (inside t among).quiet notFunction unnamed
  rw [List.append_nil] at steps
  rw [NodeInfo.searchField_eq, steps]
  exact NodeInfo.searchAlong_quiet quiet

/-- A search that has seen a name goes on if there is another one in the same field behind it: in one part of a rule. -/
theorem pairwise_part (last : ¬ symbol.IsEarlier) (tidy : t.Tidy)
    (taken : t.extra = false → Production.takes symbol production part t.symbol.role = true)
    (inside : ¬ t.symbol.IsEarlier → ∀ {steps before},
      (outlines none steps before t).Pairwise (·.info.LetsPass ·.info)) :
    (outlines (if t.extra then none else (Production.get production).alias? part) (⟨production, part, t.extra⟩ :: above)
      before t).Pairwise (·.info.LetsPass ·.info) := by
  -- Where one node is seen there is nothing to compare, so only a hidden part in its own guise is left.
  cases extra : t.extra with
  | true =>
    obtain ⟨l, rfl⟩ := tidy.leaf_of_extra extra
    rw [if_pos rfl, outlines]
    split_ifs
    · exact List.pairwise_singleton _ _
    · exact List.Pairwise.nil
  | false =>
    rw [if_neg Bool.false_ne_true]
    cases shown : (Production.get production).alias? part with
    | some guise =>
      rw [outlines_seen rfl]
      exact List.pairwise_singleton _ _
    | none =>
      by_cases earlier : t.symbol.IsEarlier
      · -- All names in it are followed by another one in the same field.
        refine List.pairwise_of_forall_mem_list fun o member other _ name _ _ => ?_
        have seen : SeenAt symbol production part above t o := .own extra shown (taken extra) member
        obtain ⟨f, among, inField, _⟩ := seen.named name (tidy.leads name)
        have notWord : t.symbol.role ≠ .word := by
          rcases earlier with own | own <;> rw [own] <;> decide
        have notName := Production.role_ne_name_of_takes (taken extra) notWord
        obtain ⟨held, _⟩ := Production.holds_of_takes (taken extra) shown notName
        obtain ⟨fields, later⟩ := Production.hasLater_of_holds held earlier last
        rw [fields, List.mem_singleton] at among
        subst among
        exact inField.later later
      · exact inside earlier

theorem pairwise_parts (last : ¬ symbol.IsEarlier) (composes : Composes symbol production part ts)
    (inside : ∀ t ∈ ts, t.Tidy) (pairwise : ∀ t ∈ ts, ¬ t.symbol.IsEarlier → ∀ {steps before},
      (outlines none steps before t).Pairwise (·.info.LetsPass ·.info)) :
    (outlinesOf production part above before ts).Pairwise (·.info.LetsPass ·.info) := by
  induction ts generalizing part before with
  | nil =>
    rw [outlinesOf]
    exact List.Pairwise.nil
  | cons t ts ih =>
    obtain ⟨tidy, others⟩ := List.forall_mem_cons.mp inside
    obtain ⟨first, behind⟩ := List.forall_mem_cons.mp pairwise
    rw [outlinesOf, List.pairwise_append]
    refine ⟨pairwise_part last tidy composes.1 first, ih composes.2 others behind, ?_⟩
    intro o here other there name name' same
    have seen := seenAt_of_mem tidy composes.1 here
    obtain ⟨f, _, inField, reserved⟩ := seen.named name (tidy.leads name)
    obtain ⟨place, later, f', _, inField', reserved'⟩ := exists_field_of_isName composes.2 others there name'
    -- The later name stands in a later part, in the same field: either names are in one part only, or there is a slot for it.
    rw [seen.plain name, if_neg Bool.false_ne_true] at later
    rw [inField.searchField, inField'.searchField, Option.some_inj] at same
    subst same
    rcases reserved' last with only | ⟨free, slot, member, rfl, behind⟩
    · rcases reserved last with own | ⟨free, _⟩
      · exact absurd (Option.some_inj.mp (own.symm.trans only)) (Nat.ne_of_lt later)
      · exact absurd (free.symm.trans only) (by simp)
    · exact inField.later (Production.hasLater_of_slot member (Nat.lt_of_lt_of_le later behind))

theorem Tidy.pairwise (tidy : t.Tidy) (last : ¬ t.symbol.IsEarlier) :
    (outlines none steps before t).Pairwise (·.info.LetsPass ·.info) := by
  induction tidy using Tidy.induct generalizing steps before with
  | step t tidy ih =>
    cases visible : t.symbol.isVisible with
    | true =>
      rw [outlines_seen (by rw [visible]; rfl)]
      exact List.pairwise_singleton _ _
    | false =>
      rw [outlines_hidden visible]
      exact pairwise_parts last tidy.composes tidy.children fun u among last => ih u among last

theorem mem_leaves_of_child {u : Tree} {l : Leaf} (member : u ∈ t.children) (below : l ∈ u.leaves) : l ∈ t.leaves := by
  cases t with
  | leaf => cases member
  | node s ts =>
    obtain ⟨first, others, rfl⟩ := List.append_of_mem (show u ∈ ts from member)
    rw [leaves_node, leavesOf_append, leavesOf_cons]
    exact List.mem_append_right _ (List.mem_append_left _ below)

theorem Tidy.exists_child (tidy : t.Tidy) (name : o.info.IsName)
    (member : o ∈ outlinesOf t.production 0 above before t.children) :
    ∃ u ∈ t.children, ∃ steps before, o ∈ outlines none steps before u := by
  obtain ⟨u, among, part, _, seen⟩ := exists_seenAt tidy.composes tidy.children member
  cases seen with
  | extra _ unnamed => exact absurd name unnamed
  | guise _ _ _ unnamed => exact absurd name unnamed
  | own _ _ _ inside => exact ⟨u, among, _, _, inside⟩

theorem Tidy.exists_leaf (tidy : t.Tidy) (name : o.info.IsName) (member : o ∈ outlines none steps before t) :
    ∃ l ∈ t.leaves, 0 < l.size.bytes := by
  induction tidy using Tidy.induct generalizing steps before with
  | step t tidy ih =>
    cases visible : t.symbol.isVisible with
    | true =>
      rw [outlines_seen (by rw [visible]; rfl), List.mem_singleton] at member
      subst member
      have own : t.symbol = Symbol.variableName := name
      -- The name is a node over a word, and that word is long.
      cases tidy with
      | leaf known =>
        rw [symbol] at own
        rw [own] at known
        exact absurd known (by decide)
      | node follows =>
        rw [symbol] at own
        rw [leaves_node]
        exact follows.name (by rw [own]; decide)
    | false =>
      rw [outlines_hidden visible] at member
      obtain ⟨u, among, _, _, inside⟩ := tidy.exists_child name member
      obtain ⟨l, below, long⟩ := ih u among inside
      exact ⟨l, mem_leaves_of_child among below, long⟩

theorem Tidy.stop_pos (tidy : t.Tidy) (guise : Option Symbol) (name : o.info.IsName)
    (member : o ∈ outlinesOf t.production 0 [] before t.children) : 0 < (t.nodeInfo guise steps before).stop.bytes := by
  obtain ⟨u, among, _, _, inside⟩ := tidy.exists_child name member
  obtain ⟨l, below, long⟩ := (tidy.children u among).exists_leaf name inside
  have whole := tidy.bytes_pos l (mem_leaves_of_child among below) long
  rw [nodeInfo, Extent.add_assoc]
  exact Nat.add_pos_right _ whole

end Names

/-! ### Which nodes have names in them -/

section WellNamed

variable {t : Tree} {guise : Option Symbol} {steps above : List Step} {before : Extent} {o : Outline}

/-- What is seen of a rule that leads to names is a declaration or a loop. -/
theorem symbol_of_namingFields (tidy : t.Tidy) (seen : guise = none → t.symbol.isVisible = true)
    (own : ∀ g ∈ guise, t.symbol.role.isSeenAs g = true) (leads : t.symbol.namingFields ≠ []) :
    (t.symbol.namingFields = [Field.declared] ∧
        guise.getD t.symbol ∈ [Symbol.declaration, Symbol.exportConst, Symbol.exportLet]) ∨
      (t.symbol.namingFields = Field.iterated ∧ guise.getD t.symbol = Symbol.forStatement) := by
  cases guise with
  | none =>
    -- Of the symbols that are seen by themselves only two lead to names.
    by_cases declaration : t.symbol = Symbol.declaration
    · exact Or.inl ⟨by rw [declaration]; rfl, by rw [declaration]; decide⟩
    · by_cases loop : t.symbol = Symbol.forStatement
      · exact Or.inr ⟨by rw [loop]; rfl, loop⟩
      · refine absurd ?_ leads
        rw [Symbol.namingFields, if_neg declaration, if_neg loop]
        by_cases error : t.symbol = Symbol.error
        · rw [error]
          decide
        · exact Symbol.fields_of_isVisible (tidy.known error) (seen rfl)
  | some g =>
    -- The role of a hidden rule tells in which guises it is seen.
    have shown := own g rfl
    have other : t.symbol.role ≠ .statement := by
      intro statement
      rw [statement] at shown
      exact absurd shown (by simp [Role.isSeenAs])
    rw [Symbol.namingFields_of_role other] at leads ⊢
    cases role : t.symbol.role <;> rw [role] at shown leads
    case constants => exact Or.inl ⟨rfl, by simp [eq_of_beq shown]⟩
    case lets =>
      rcases Bool.or_eq_true_iff.mp shown with exported | declared
      · exact Or.inl ⟨rfl, by simp [eq_of_beq exported]⟩
      · exact Or.inl ⟨rfl, by simp [eq_of_beq declared]⟩
    case plain | word | name | function => exact absurd rfl leads
    all_goals exact absurd shown Bool.false_ne_true

theorem not_isEarlier_of_seen (tidy : t.Tidy) (seen : guise = none → t.symbol.isVisible = true)
    (own : ∀ g ∈ guise, t.symbol.role.isSeenAs g = true) : ¬ t.symbol.IsEarlier := by
  rintro (earlier | earlier) <;> cases guise with
  | none =>
    by_cases error : t.symbol = Symbol.error
    · rw [error] at earlier
      exact absurd earlier (by decide)
    · have fields := Symbol.fields_of_isVisible (tidy.known error) (seen rfl)
      rw [earlier] at fields
      cases fields
  | some g =>
    have shown := own g rfl
    rw [earlier] at shown
    exact absurd shown Bool.false_ne_true

/-- A tidy tree that is seen has names right below it only if it is a declaration or a loop. -/
theorem Tidy.wellNamed (tidy : t.Tidy) (seen : guise = none → t.symbol.isVisible = true)
    (own : ∀ g ∈ guise, t.symbol.role.isSeenAs g = true) :
    (Outline.node (t.nodeInfo guise steps before) (outlinesOf t.production 0 [] before t.children)).WellNamed := by
  by_cases leads : t.symbol.namingFields = []
  -- Where no field leads to names there are none.
  · refine .unnamed fun c member name => ?_
    obtain ⟨_, _, f, among, _⟩ := exists_field_of_isName tidy.composes tidy.children member name
    rw [leads] at among
    cases among
  have known : t.symbol < Symbol.ruleCount := by
    refine tidy.known fun error => leads ?_
    rw [error]
    decide
  have other : t.symbol.role ≠ .name := by
    intro name
    rw [Symbol.namingFields_of_role (by rw [name]; decide), name] at leads
    exact leads rfl
  have last := not_isEarlier_of_seen tidy seen own
  -- Each part of what is asked has its own induction over the hidden rules below.
  have declares : (Outline.node (t.nodeInfo guise steps before) (outlinesOf t.production 0 [] before t.children)).Declares
      t.symbol.namingFields := {
    named := fun c member name => by
      obtain ⟨_, _, f, among, inField, _⟩ := exists_field_of_isName tidy.composes tidy.children member name
      exact ⟨f, among, inField.searchField⟩
    unnamed := fun c member unnamed =>
      isNaming_eq_false (Symbol.roleTable.searched _ known leads) other tidy.composes tidy.children member unnamed
    inOrder := pairwise_parts last tidy.composes tidy.children fun u among last => (tidy.children u among).pairwise last
    stop := fun c member name => tidy.stop_pos guise name member }
  rcases symbol_of_namingFields tidy seen own leads with ⟨fields, symbol⟩ | ⟨fields, symbol⟩
  · exact .declaration symbol (fields ▸ declares)
  · exact .loop symbol (fields ▸ declares)

/-- What holds of all that is seen of the parts of a rule, in the guises that the rule gives them, holds of all that is seen of
the rule. -/
theorem all_outlinesOf {symbol : Symbol} {production part : Nat} {ts : List Tree} {P : Outline → Prop}
    (composes : Composes symbol production part ts) (each : ∀ t ∈ ts, ∀ {guise steps before},
      (∀ g ∈ guise, t.symbol.role.isSeenAs g = true) → ∀ o ∈ outlines guise steps before t, P o) :
    ∀ o ∈ outlinesOf production part above before ts, P o := by
  induction ts generalizing part before with
  | nil =>
    rw [outlinesOf]
    exact fun o none => absurd none List.not_mem_nil
  | cons t ts ih =>
    obtain ⟨first, others⟩ := List.forall_mem_cons.mp each
    rw [outlinesOf]
    refine List.forall_mem_append.mpr ⟨first fun g shown => ?_, ih composes.2 others⟩
    -- An extra gets no guise.
    cases extra : t.extra with
    | true =>
      rw [extra] at shown
      cases shown
    | false =>
      rw [extra, if_neg Bool.false_ne_true] at shown
      exact Production.isSeenAs_of_takes (composes.1 extra) shown

/-- So it is with all nodes that are seen of a tidy tree. -/
theorem Tidy.all_wellNamed (tidy : t.Tidy) (own : ∀ g ∈ guise, t.symbol.role.isSeenAs g = true) :
    ∀ o ∈ outlines guise steps before t, o.All Outline.WellNamed := by
  induction tidy using Tidy.induct generalizing guise steps before with
  | step t tidy ih =>
    have parts {above before} : ∀ o ∈ outlinesOf t.production 0 above before t.children, o.All Outline.WellNamed :=
      all_outlinesOf tidy.composes ih
    -- A tree that is seen is looked at itself, and one that is hidden is its parts.
    cases hidden : (guise.isSome || t.symbol.isVisible) with
    | true =>
      rw [outlines_seen hidden]
      refine List.forall_mem_singleton.mpr (.node (tidy.wellNamed ?_ own) parts)
      rintro rfl
      exact hidden
    | false =>
      obtain ⟨none, unseen⟩ := Bool.or_eq_false_iff.mp hidden
      rw [Option.isSome_eq_false_iff, Option.isNone_iff_eq_none] at none
      rw [none, outlines_hidden unseen]
      exact parts

end WellNamed

end Tree
end Ucode

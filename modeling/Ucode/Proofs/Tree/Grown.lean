import Ucode.Proofs.Grammar.Paths
import Ucode.Proofs.Tree.Balanced
import Ucode.Proofs.Tree.Tidy
import Ucode.Proofs.Tree.Written

/-!
# Trees that the parser grows

The parser puts a node over trees that lie on a path of the table, over others only where there is an error. A tree without
error costs nothing, and neither do the trees below it. So wherever a grown tree costs nothing it is tidy, and so is the tree of a
whole text (`isWhole_of_row`).
-/
namespace Ucode.Tree

open Grammar (StateId Reaches Reduces)

/-! ### Costs -/

section Costs

variable {symbol : Symbol} {production : Nat} {t : Tree} {ts : List Tree} {extra : Bool}

theorem errorCost_add_le (p : Production) (tally : Tally) :
    tally.errorCost + (if t.symbol = Symbol.errorRepeat then 0 else t.errorCost) ≤ (tally.add symbol p t).errorCost :=
  Nat.le_add_right _ _

theorem errorCost_le_foldl (p : Production) (tally : Tally) :
    tally.errorCost ≤ (ts.foldl (Tally.add symbol p) tally).errorCost := by
  induction ts generalizing tally with
  | nil => exact Nat.le_refl _
  | cons t ts ih => exact ((Nat.le_add_right _ _).trans (errorCost_add_le p tally)).trans (ih _)

/-- A node costs at least as much as each tree below it, but for groups of skipped tokens. -/
theorem errorCost_le_ofChildren (member : t ∈ ts) (ordinary : t.symbol ≠ Symbol.errorRepeat) :
    t.errorCost ≤ (ofChildren symbol production ts extra).errorCost := by
  -- A tally only grows, so what counts is the place at which the tree is added.
  have counted : ∀ tally : Tally,
      t.errorCost ≤ (ts.foldl (Tally.add symbol (Production.get production)) tally).errorCost := by
    induction ts with
    | nil => cases member
    | cons u ts ih =>
      intro tally
      rw [List.foldl_cons]
      rcases List.mem_cons.mp member with rfl | later
      · have first : tally.errorCost + (if t.symbol = Symbol.errorRepeat then 0 else t.errorCost) ≤
            (tally.add symbol (Production.get production) t).errorCost := errorCost_add_le _ tally
        rw [if_neg ordinary] at first
        exact ((Nat.le_add_left _ _).trans first).trans (errorCost_le_foldl _ _)
      · exact ih later _
  exact (counted _).trans (Nat.le_add_right _ _)

theorem errorCost_pos_of_isSkipped (skipped : isSkipped symbol = true) :
    0 < (ofChildren symbol production ts extra).errorCost := by
  have cost : 0 < errorCosts.recovery := by decide
  rw [ofChildren, errorCost, if_pos skipped]
  dsimp only
  omega

end Costs

/-! ### Grown trees -/

/-- Whether a tree ends a text: it is the end itself, or the error to which all of a text has come. -/
def isFinal : Tree → Bool
  | leaf l => l.symbol == Symbol.finish
  | node s _ => s.symbol == Symbol.error && !s.extra

/-- A tree as the parser makes it before the end of a text, which is tidy wherever it costs nothing. -/
inductive Grown : Tree → Prop
  | leaf {l : Leaf} (known : l.symbol < Symbol.tokenCount ∨ l.symbol = Symbol.error)
      (written : l.symbol ≠ Symbol.unwritten) (inner : l.symbol ≠ Symbol.finish)
      (word : l.symbol = Symbol.word → l.isMissing = false → 0 < l.size.bytes) : Grown (leaf l)
  | node {s : Summary} {ts : List Tree} (rule : Symbol.tokenCount ≤ s.symbol)
      (extra : s.extra = true ↔ s.symbol = Symbol.error)
      (markup : s.symbol = Symbol.markup → s.production = 0 ∧ Composes s.symbol s.production 0 ts)
      (tidy : s.errorCost = 0 → Tidy (node s ts)) (inside : ∀ t ∈ ts, Grown t) : Grown (node s ts)

section Grown

variable {symbol : Symbol} {production : Nat} {t : Tree} {ts : List Tree} {extra : Bool}

theorem Grown.tidy (grown : t.Grown) (free : t.errorCost = 0) : t.Tidy := by
  cases grown with
  | leaf known _ _ word =>
    -- A leaf that costs nothing is not missing.
    refine .leaf known fun here => word here ?_
    rw [Tree.errorCost, Leaf.errorCost] at free
    split_ifs at free with missing
    · exact absurd free (by decide)
    · exact Bool.eq_false_iff.mpr missing
  | node _ _ _ tidy _ => exact tidy free

theorem Grown.children (grown : t.Grown) : ∀ u ∈ t.children, u.Grown := by
  cases grown with
  | leaf => exact List.forall_mem_nil _
  | node _ _ _ _ inside => exact inside

theorem Grown.isFinal (grown : t.Grown) : t.isFinal = false := by
  cases grown with
  | leaf _ _ inner => exact beq_false_of_ne inner
  | @node s ts _ extra =>
    rw [Tree.isFinal]
    cases other : s.extra with
    | true => exact Bool.and_false _
    | false =>
      rw [Bool.not_false, Bool.and_true]
      exact beq_false_of_ne fun error => absurd (other.symm.trans (extra.mpr error)) Bool.false_ne_true

theorem Grown.written (grown : t.Grown) : t.Written := by
  induction grown with
  | leaf _ written _ _ => exact .leaf written
  | node rule _ _ _ _ ih =>
    refine .node ?_ ih
    rintro same
    rw [same] at rule
    exact absurd rule (by decide)

/-- Only a part of no rule can be a group of skipped tokens. -/
theorem Grown.ordinary (grown : t.Grown) (part : t.extra = true ∨ t.symbol.role ≠ .skipped) :
    t.symbol ≠ Symbol.errorRepeat := by
  have group : Symbol.role Symbol.errorRepeat = .skipped := by decide
  rintro same
  rcases part with extra | role
  · cases grown with
    | leaf known =>
      rw [Tree.symbol] at same
      rw [same] at known
      exact absurd known (by decide)
    | node _ error =>
      rw [Tree.symbol, error.mp extra] at same
      exact absurd same (by decide)
  · exact role (same ▸ group)

theorem Grown.ordinary_of_composes {rule : Symbol} {number part : Nat} (grown : ∀ t ∈ ts, t.Grown)
    (composes : Composes rule number part ts) : ∀ t ∈ ts, t.symbol ≠ Symbol.errorRepeat := by
  intro t member
  apply (grown t member).ordinary
  cases plain : t.extra with
  | true => exact Or.inl rfl
  | false =>
    refine Or.inr fun skipped => ?_
    obtain ⟨_, taken⟩ := composes.of_mem member plain
    rw [skipped, Production.takes_skipped] at taken
    cases taken

/-- If a node costs nothing, the trees below it are tidy wherever they would be without cost. -/
theorem tidy_of_free (free : (ofChildren symbol production ts extra).errorCost = 0)
    (ordinary : ∀ t ∈ ts, t.symbol ≠ Symbol.errorRepeat) (tidy : ∀ t ∈ ts, t.errorCost = 0 → t.Tidy) : ∀ t ∈ ts, t.Tidy :=
  fun t member => tidy t member (Nat.le_zero.mp (free ▸ errorCost_le_ofChildren member (ordinary t member)))

theorem grown_of_isSkipped (skipped : isSkipped symbol = true) (error : extra = true ↔ symbol = Symbol.error)
    (inside : ∀ t ∈ ts, t.Grown) : (ofChildren symbol production ts extra).Grown := by
  have facts : Symbol.tokenCount ≤ symbol ∧ symbol ≠ Symbol.markup := by
    rcases (by simpa [isSkipped] using skipped : symbol = Symbol.error ∨ symbol = Symbol.errorRepeat) with rfl | rfl <;> decide
  exact .node facts.1 error (fun here => absurd here facts.2)
    (fun free => absurd free (Nat.ne_of_gt (errorCost_pos_of_isSkipped skipped))) inside

end Grown

/-! ### Reductions -/

section Reductions

variable {state goal : StateId} {symbol : Symbol} {count production : Nat} {t : Tree} {ts : List Tree}

theorem partsOf_append (ts us : List Tree) : partsOf (ts ++ us) = partsOf ts ++ partsOf us := by
  rw [partsOf, List.filter_append, List.map_append, partsOf, partsOf]

theorem partsOf_splitExtras (ts : List Tree) : partsOf (splitExtras ts).1 = partsOf ts := by
  have none : partsOf (splitExtras ts).2 = [] := by
    rw [partsOf, List.map_eq_nil_iff, List.filter_eq_nil_iff]
    intro t member
    simp [extra_of_mem_splitExtras member]
  rw [← splitExtras_append ts, partsOf_append, splitExtras_append, none, List.append_nil]

theorem getLast?_partsOf (head : t ∈ headOf ts) : t.extra = false ∧ (partsOf ts).getLast? = some t.symbol := by
  rw [headOf] at head
  refine ⟨by simpa using List.find?_some head, ?_⟩
  rw [partsOf, List.getLast?_map, List.getLast?_filter, Option.mem_def.mp head, Option.map_some]

/-- A node over trees that lie on a path of the table. -/
theorem grown_of_reaches (reduces : Reduces goal symbol count production) (reaches : Reaches goal state (partsOf ts))
    (length : (partsOf ts).length = count) (grown : ∀ t ∈ ts, t.Grown) :
    (ofChildren symbol production (splitExtras ts).1 false).Grown := by
  subst length
  have inside := (forall_splitExtras grown).1
  have composes : Composes symbol production 0 (splitExtras ts).1 := by
    apply composes_of_partsOf
    rw [partsOf_splitExtras]
    intro i within
    rw [Nat.zero_add]
    exact reduces.takes reaches i within
  have proper : symbol ≠ Symbol.error := fun error => absurd (error ▸ reduces.known) (by decide)
  refine .node reduces.rule ⟨(nomatch ·), fun error => absurd error proper⟩ (fun here => ⟨reduces.markup here, composes⟩) (fun free => ?_) inside
  have tidy := tidy_of_free free (Grown.ordinary_of_composes inside composes) fun t member => (inside t member).tidy
  refine tidy_ofChildren reduces.rule reduces.known composes tidy (fun repetition t last => ?_) fun name => ?_
  -- The last part is the top symbol of the path, whose role the certificate knows.
  · rw [getLast?_splitExtras] at last
    obtain ⟨plain, top⟩ := getLast?_partsOf last
    refine ⟨plain, reduces.last repetition _ ?_⟩
    rw [List.getLast?_eq_getElem?] at top
    obtain ⟨within, here⟩ := List.getElem?_eq_some_iff.mp top
    have role := reaches.mem_rolesBelow _ within
    rwa [Nat.sub_self, here] at role
  -- A name is reduced over one part.
  · have one : (partsOf (splitExtras ts).1).length = 1 := by
      rw [partsOf_splitExtras]
      exact reduces.name name
    obtain ⟨_, single⟩ := List.length_eq_one_iff.mp one
    obtain ⟨t, part, rfl⟩ := List.mem_map.mp (single ▸ List.mem_singleton_self _)
    obtain ⟨member, plain⟩ := List.mem_filter.mp part
    exact ⟨t, member, by simpa using plain⟩

end Reductions

/-! ### Whole texts -/

/-- A tree that a whole text can have, which is tidy if nothing in it is in error. -/
structure IsWhole (t : Tree) : Prop extends t.IsRoot where
  shallow : t.repeatDepth = 0
  tidy : t.errorCost = 0 → t.Tidy

section Whole

variable {t : Tree} {ts : List Tree}

theorem repetition_eq_zero {symbol : Symbol} (single : symbol.visibility ≠ .auxiliary) (ts : List Tree) :
    repetition symbol ts = 0 := by
  unfold repetition
  split
  · exact if_neg fun both => single both.1
  · rfl

theorem isWhole_error (production : Nat) (written : ∀ t ∈ ts, t.Written) :
    (ofChildren Symbol.error production ts false).IsWhole where
  written := written_ofChildren (by decide) written
  symbol := Or.inr rfl
  shallow := repetition_eq_zero (by decide) ts
  tidy free := absurd free (Nat.ne_of_gt (errorCost_pos_of_isSkipped rfl))

theorem takes_markup (part : Nat) (r : Role) : Production.takes Symbol.markup 0 part r =
    (r == .plain || r == .word || r == .statement || r == .function) := by
  have role : Symbol.role Symbol.markup = .plain := by decide
  have seen : Symbol.isSearched Symbol.markup = false := by decide
  have apart : (Symbol.markup == Symbol.declaration) = false ∧ (Symbol.markup == Symbol.forStatement) = false := by decide
  -- No names are looked for in a markup, so fields do not count.
  rw [Production.takes, if_neg (by rw [role]; decide), Production.plain_zero.guise, seen]
  cases r <;> simp [Production.holds, role, seen, apart] <;> rfl

theorem composes_markup {part : Nat} (taken : ∀ t ∈ ts, t.extra = false →
    Production.takes Symbol.markup 0 0 t.symbol.role = true) : Composes Symbol.markup 0 part ts := by
  induction ts generalizing part with
  | nil => trivial
  | cons t ts ih =>
    obtain ⟨first, others⟩ := List.forall_mem_cons.mp taken
    refine ⟨fun plain => ?_, ih others⟩
    have here := first plain
    rwa [takes_markup] at here ⊢

theorem Composes.of_mem_markup {part : Nat} (composes : Composes Symbol.markup 0 part ts) :
    ∀ t ∈ ts, t.extra = false → Production.takes Symbol.markup 0 0 t.symbol.role = true := by
  intro t member plain
  obtain ⟨i, taken⟩ := composes.of_mem member plain
  rwa [takes_markup] at taken ⊢

/-- A grown markup is a node over parts that a markup takes. -/
theorem Grown.markup (grown : t.Grown) (own : t.symbol = Symbol.markup) :
    t.production = 0 ∧ Composes Symbol.markup 0 0 t.children := by
  cases grown with
  | leaf known =>
    rw [Tree.symbol] at own
    rw [own] at known
    exact absurd known (by decide)
  | @node s ts _ _ markup _ _ =>
    obtain ⟨production, composes⟩ := markup own
    have same : s.symbol = Symbol.markup := own
    rw [production, same] at composes
    exact ⟨production, composes⟩

/-- The end of a text, as it stands on the stack. -/
def IsEnd (t : Tree) : Prop := ∃ l, t = leaf l ∧ l.symbol = Symbol.finish ∧ l.extra = true

/-- A tree on the way down from the end of a text. -/
structure Stands (t : Tree) : Prop where
  tree : t.Grown ∨ t.IsEnd
  markup : t.extra = true ∨ t.symbol = Symbol.markup

theorem Stands.written (stands : t.Stands) : t.Written := by
  rcases stands.tree with grown | ⟨l, rfl, finish, _⟩
  · exact grown.written
  · exact .leaf (by rw [finish]; decide)

theorem Stands.tidy (stands : t.Stands) (free : t.errorCost = 0) : t.Tidy := by
  rcases stands.tree with grown | ⟨l, rfl, finish, _⟩
  · exact grown.tidy free
  · exact .leaf (Or.inl (by rw [finish]; decide)) fun word => absurd (finish.symm.trans word) (by decide)

theorem Stands.ordinary (stands : t.Stands) : t.symbol ≠ Symbol.errorRepeat := by
  rcases stands.tree with grown | ⟨l, rfl, finish, _⟩
  · refine grown.ordinary (stands.markup.imp_right fun markup => ?_)
    rw [markup]
    decide
  · rw [Tree.symbol, finish]
    decide

/-- The tree of a whole text: its markup, which has taken in the extras around it. -/
theorem isWhole_of_stands {before extras : List Tree} (stands : ∀ u ∈ before ++ t :: extras, u.Stands)
    (plain : t.extra = false) :
    (ofChildren t.symbol t.production (before ++ t.children ++ extras) false).IsWhole := by
  simp only [List.forall_mem_append, List.forall_mem_cons] at stands
  obtain ⟨front, own, behind⟩ := stands
  have markup : t.symbol = Symbol.markup := own.markup.resolve_left (by simp [plain])
  have grown : t.Grown := by
    refine own.tree.resolve_right ?_
    rintro ⟨l, rfl, _, extra⟩
    exact absurd (plain.symm.trans extra) Bool.false_ne_true
  obtain ⟨production, composes⟩ := grown.markup markup
  have takes {u : Tree} (stands : u.Stands) (plain : u.extra = false) :
      Production.takes Symbol.markup 0 0 u.symbol.role = true := by
    rw [stands.markup.resolve_left (by simp [plain]), takes_markup]
    decide
  -- What is asked of the trees of the root is asked of those in front, of the parts of the markup, and of those behind.
  have written : ∀ u ∈ before ++ t.children ++ extras, u.Written := by
    simp only [List.forall_mem_append]
    exact ⟨⟨fun u member => (front u member).written, fun u member => (grown.children u member).written⟩,
      fun u member => (behind u member).written⟩
  have ordinary : ∀ u ∈ before ++ t.children ++ extras, u.symbol ≠ Symbol.errorRepeat := by
    simp only [List.forall_mem_append]
    exact ⟨⟨fun u member => (front u member).ordinary, Grown.ordinary_of_composes grown.children composes⟩,
      fun u member => (behind u member).ordinary⟩
  have free : ∀ u ∈ before ++ t.children ++ extras, u.errorCost = 0 → u.Tidy := by
    simp only [List.forall_mem_append]
    exact ⟨⟨fun u member => (front u member).tidy, fun u member => (grown.children u member).tidy⟩,
      fun u member => (behind u member).tidy⟩
  have taken : ∀ u ∈ before ++ t.children ++ extras, u.extra = false →
      Production.takes Symbol.markup 0 0 u.symbol.role = true := by
    simp only [List.forall_mem_append]
    exact ⟨⟨fun u member => takes (front u member), composes.of_mem_markup⟩, fun u member => takes (behind u member)⟩
  have single : Symbol.markup.visibility ≠ .auxiliary := fun hidden =>
    absurd (Symbol.isVisible_of_sets (s := Symbol.markup) (by decide) (by decide)) (by rw [Symbol.isVisible, hidden]; decide)
  rw [markup, production]
  refine ⟨⟨written_ofChildren (by decide) written, Or.inl rfl⟩, repetition_eq_zero single _, fun cheap => ?_⟩
  refine tidy_ofChildren (by decide) (by decide) (composes_markup taken) (tidy_of_free cheap ordinary free)
    (fun repetition => ?_) fun name => ?_
  · exact absurd repetition (by decide)
  · exact absurd name (by decide)

end Whole
end Ucode.Tree

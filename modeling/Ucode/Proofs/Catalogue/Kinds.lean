import Ucode.Catalogue.Entries
import Ucode.Proofs.Parse.Rooted
import Ucode.Text.Utf8
import Ucode.Tree.Outline

/-!
# The kinds that a tree shows

A catalogue lists a kind if one of its entries gives its name and says whether it is named. The kinds of all visible symbols
are listed, and those of all aliases, but for errors and for the token that stands in no text. So all nodes that
are seen of a written tree have a listed kind or are errors; and the tree of each text is written, whatever its bytes are
(`parse_kinds`).
-/
namespace Ucode

/-! ### The entries of the catalogue -/

namespace Catalogue

/-- The published catalogue has an entry for a kind. -/
def Lists (kind : NodeKind) : Prop :=
  ∃ items fields, toJson rules tokens = .array items ∧ .object fields ∈ items ∧
    ("type", .string kind.name) ∈ fields ∧ ("named", .bool kind.named) ∈ fields

/-- The kinds that have an entry. -/
def kinds : Kinds := rules.map (fun r => .node r.name) ++ tokens

theorem mem_kindFields {kind other : NodeKind} (name : ("type", Json.string kind.name) ∈ kindFields other)
    (named : ("named", Json.bool kind.named) ∈ kindFields other) : kind = other := by
  cases kind
  cases other
  simp_all [kindFields]

theorem lists_iff (kind : NodeKind) : Lists kind ↔ kind ∈ kinds := by
  rw [kinds, List.mem_append, List.mem_map]
  constructor
  · rintro ⟨items, fields, whole, member, name, named⟩
    cases whole
    -- Whatever else the entry of a rule says, its name and the mark for named kinds are those of its kind.
    rcases List.mem_append.mp member with rule | token
    · obtain ⟨r, known, same⟩ := List.mem_map.mp rule
      cases same
      refine Or.inl ⟨r, known, (mem_kindFields ?_ ?_).symm⟩
      · cases r with
        | mk ruleName isRoot slots others => cases isRoot <;> cases others <;> simpa [kindFields] using name
      · cases r with
        | mk ruleName isRoot slots others => cases isRoot <;> cases others <;> simpa [kindFields] using named
    · obtain ⟨other, known, same⟩ := List.mem_map.mp token
      cases same
      exact Or.inr (mem_kindFields name named ▸ known)
  · rintro (⟨r, known, rfl⟩ | known)
    · refine ⟨_, _, rfl, List.mem_append_left _ (List.mem_map_of_mem known), ?_, ?_⟩
      all_goals simp [kindFields]
    · refine ⟨_, _, rfl, List.mem_append_right _ (List.mem_map_of_mem known), ?_, ?_⟩
      all_goals simp [kindFields]

end Catalogue

/-! ### Symbols -/

namespace Symbol

/-- A symbol whose nodes are errors or have a kind in the catalogue. -/
def IsListed (s : Symbol) : Prop := s = error ∨ s.nodeKind ∈ Catalogue.kinds

/-- What is asked of a symbol of the table: if it is seen, and is not the one that stands in no text, it is listed. -/
def testListed (s : Symbol) (i : SymbolInfo) : Bool :=
  Nat.beq s unwritten || !i.visibility.isVisible || decide (⟨i.kind, i.visibility.isNamed⟩ ∈ Catalogue.kinds)

/-- What the tables of symbols and productions say about listed kinds. -/
structure KindTable : Prop where
  symbols : Grammar.testAll testListed 0 table.toList = true
  guises : ∀ p ∈ Production.table.toList, ∀ a ∈ p.aliases, a.2 ≠ unwritten ∧ a.2.isVisible = true
  proper : ∀ kind ∈ Catalogue.kinds, kind.name ≠ "error"

theorem kindTable : KindTable := by constructor <;> decide +kernel

theorem isListed_of_isVisible {s : Symbol} (proper : s ≠ unwritten) (visible : s.isVisible = true) : s.IsListed := by
  by_cases special : s = error
  · exact Or.inl special
  · have visibility_eq : s.visibility = (table[s]?.map (·.visibility)).getD .auxiliary := by
      rw [visibility, if_neg special, Array.getD_eq_getD_getElem?, visibilities, Array.getElem?_map]
    -- Beyond the table a symbol is not visible.
    cases here : table[s]? with
    | none =>
      rw [isVisible, visibility_eq, here] at visible
      cases visible
    | some i =>
      rw [here] at visibility_eq
      have ordinary : s ≠ errorRepeat := by
        rintro rfl
        have within : errorRepeat < kindCount := (Array.getElem?_eq_some_iff.mp here).1
        exact absurd within (by decide)
      have nodeKind_eq : s.nodeKind = ⟨i.kind, i.visibility.isNamed⟩ := by
        rw [nodeKind, kind, info, if_neg special, if_neg ordinary, Array.getD_eq_getD_getElem?, here, isNamed, visibility_eq]
        rfl
      have tested := Grammar.test_of_testAll kindTable.symbols (k := s) (by simpa using here)
      rw [Nat.zero_add, testListed, Bool.or_eq_true, Bool.or_eq_true, Nat.beq_eq, decide_eq_true_eq] at tested
      rw [isVisible, visibility_eq, Option.map_some, Option.getD_some] at visible
      refine Or.inr (nodeKind_eq ▸ tested.resolve_left (not_or.mpr ⟨proper, ?_⟩))
      simp [visible]

end Symbol

namespace Production

theorem isListed_of_alias? {number part : Nat} {guise : Symbol} (found : (get number).alias? part = some guise) :
    guise.IsListed := by
  obtain ⟨p, listed, among⟩ := exists_of_alias? found
  obtain ⟨proper, visible⟩ := Symbol.kindTable.guises p listed _ among
  exact Symbol.isListed_of_isVisible proper visible

end Production

/-! ### Outlines -/

namespace Outline

mutual
/-- All nodes of an outline, those above before those below. -/
def nodes : Outline → List NodeInfo
  | node info children => info :: nodesOf children

/-- All nodes of a row of outlines. -/
def nodesOf : List Outline → List NodeInfo
  | [] => []
  | o :: os => nodes o ++ nodesOf os
end

theorem nodesOf_append (os ps : List Outline) : nodesOf (os ++ ps) = nodesOf os ++ nodesOf ps := by
  induction os with
  | nil => rw [nodesOf, List.nil_append, List.nil_append]
  | cons o os ih => rw [List.cons_append, nodesOf, nodesOf, ih, List.append_assoc]

end Outline

namespace Tree

open Outline (nodesOf)

mutual
/-- The nodes that are seen of a written tree have listed symbols, if the guise that the tree is given has one. -/
theorem isListed_outlines {t : Tree} (written : t.Written) (guise : Option Symbol) (steps : List Step) (before : Extent)
    (listed : ∀ g ∈ guise, g.IsListed) : ∀ n ∈ nodesOf (outlines guise steps before t), n.symbol.IsListed := by
  -- A node is seen in its own guise only if its symbol is visible.
  have own (visible : (guise.isSome || t.symbol.isVisible) = true) : (guise.getD t.symbol).IsListed := by
    cases guise with
    | none => exact Symbol.isListed_of_isVisible written.symbol_ne visible
    | some g => exact listed g rfl
  cases t with
  | leaf l =>
    rw [outlines]
    split
    · next visible =>
      simpa [nodesOf, Outline.nodes, nodeInfo] using own visible
    · exact List.forall_mem_nil _
  | node s ts =>
    -- A hidden node is passed over, but the aliases for its parts are still those of its own rule.
    have below := written.children
    rw [outlines]
    split
    · next visible =>
      have inside := isListed_outlinesOf below s.production 0 [] before
      simpa [nodesOf, Outline.nodes, nodeInfo] using ⟨own visible, inside⟩
    · exact isListed_outlinesOf below s.production 0 steps before

theorem isListed_outlinesOf {ts : List Tree} (written : ∀ t ∈ ts, t.Written) (production part : Nat) (above : List Step)
    (before : Extent) : ∀ n ∈ nodesOf (outlinesOf production part above before ts), n.symbol.IsListed := by
  cases ts with
  | nil =>
    rw [outlinesOf]
    exact List.forall_mem_nil _
  | cons t ts =>
    obtain ⟨first, others⟩ := List.forall_mem_cons.mp written
    rw [outlinesOf, Outline.nodesOf_append, List.forall_mem_append]
    refine ⟨isListed_outlines first _ _ before ?_, isListed_outlinesOf others _ _ _ _⟩
    intro g guise
    split_ifs at guise with extra
    · cases guise
    · exact Production.isListed_of_alias? guise
end

end Tree

/-! ### Texts -/

namespace Symbol

variable {s : Symbol}

theorem kind_error : error.kind = "ERROR" := rfl

theorem isListed_markup : markup.IsListed :=
  isListed_of_isVisible (by decide) (isVisible_of_sets (by decide) (by decide))

theorem IsListed.lists (listed : s.IsListed) (proper : s.kind ≠ "ERROR") : Catalogue.Lists s.nodeKind := by
  rcases listed with rfl | listed
  · exact absurd kind_error proper
  · exact (Catalogue.lists_iff _).mpr listed

theorem IsListed.kind_ne (listed : s.IsListed) : s.kind ≠ "error" := by
  rcases listed with rfl | listed
  · rw [kind_error]
    decide
  · exact kindTable.proper s.nodeKind listed

end Symbol

/-- The nodes that are seen of the tree of a text have listed symbols. -/
theorem isListed_parse (text : List CodePoint) : ∀ n ∈ (parse text).outline.nodes, n.symbol.IsListed := by
  have root := parse_isRoot text
  have own : (parse text).symbol.IsListed := by
    rcases root.symbol with markup | error
    · rw [markup]
      exact Symbol.isListed_markup
    · exact Or.inl error
  have inside := Tree.isListed_outlinesOf root.written.children
  generalize parse text = t at own inside ⊢
  rw [Tree.outline, Outline.nodes, List.forall_mem_cons]
  exact ⟨own, inside _ _ _ _⟩

/-- The catalogue is complete: whatever the bytes of a text are, each node of its tree that is no error has an entry. The
token `error` has none, but neither is it found by a scan, nor is there a node of that kind. -/
theorem parse_kinds (bytes : List UInt8) :
    (∀ n ∈ (parse (Utf8.decode bytes)).outline.nodes,
      (n.kind ≠ "ERROR" → Catalogue.Lists ⟨n.kind, n.isNamed⟩) ∧ n.kind ≠ "error") ∧
    ∀ accepts context text, (Template.Context.scan accepts context text).token ≠ some .error := by
  refine ⟨fun n seen => ?_, fun accepts context text found => Template.Context.scan_ne_error found rfl⟩
  have listed := isListed_parse _ n seen
  exact ⟨listed.lists, listed.kind_ne⟩

/-- In a text of two opening braces, a space and a `1` the closing mark is missing. The node that is put in for it has an entry as well. -/
theorem parse_kinds_missing : ∃ n ∈ (parse (Utf8.decode [123, 123, 32, 49])).outline.nodes,
    n.isMissing = true ∧ Catalogue.Lists ⟨n.kind, n.isNamed⟩ ∧ n.kind ≠ "error" := by
  have shown : ∃ n ∈ (parse (Utf8.decode [123, 123, 32, 49])).outline.nodes,
      n.isMissing = true ∧ n.kind ≠ "ERROR" := by decide +kernel
  obtain ⟨n, seen, missing, proper⟩ := shown
  obtain ⟨listed, other⟩ := (parse_kinds [123, 123, 32, 49]).1 n seen
  exact ⟨n, seen, missing, listed proper, other⟩

end Ucode

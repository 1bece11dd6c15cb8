import Ucode.Proofs.Parse.Rooted
import Ucode.Proofs.Tree.Names
import Ucode.Query.Locals

/-!
# Where variables are defined

The query for local names finds the names below declarations and loops, each of them once. It has no pattern for a `let` that
is exported, so of those it finds none (`locals_definitions`).
-/
namespace Ucode

open NodeKind (node)
open scoped List

/-! ### Fields and kinds -/

theorem Field.name?_injective {f g : Field} {s : String} (first : f.name? = some s) (second : g.name? = some s) : f = g := by
  -- No two fields have the same name.
  have distinct : names.toList.Nodup := by decide
  have index {f : Field} (named : f.name? = some s) : f ≠ 0 ∧ names.toList[f - 1]? = some s := by
    unfold name? at named
    split_ifs at named with zero
    exact ⟨zero, by simpa using named⟩
  obtain ⟨f0, here⟩ := index first
  obtain ⟨g0, there⟩ := index second
  obtain ⟨within, _⟩ := List.getElem?_eq_some_iff.mp here
  have same := (List.getElem?_inj within distinct).mp (here.trans there.symm)
  exact Nat.sub_one_cancel (Nat.pos_of_ne_zero f0) (Nat.pos_of_ne_zero g0) same

namespace Symbol

/-- The kinds of nodes that definitions have to do with. -/
def definitionKinds : List (Symbol × String) := [(variableName, "_variable_name"), (declaration, "variable_declaration"),
  (exportConst, "export_const"), (exportLet, "export_let"), (forStatement, "for_statement")]

theorem kind_of_le {s : Symbol} (outside : kindCount ≤ s) : s.kind ∈ ["ERROR", "_ERROR", ""] := by
  rw [kind, info]
  split_ifs
  · exact List.mem_cons_self
  · exact List.mem_cons_of_mem _ List.mem_cons_self
  · rw [Array.getD_eq_getD_getElem?, Array.getElem?_eq_none outside]
    exact List.mem_cons_of_mem _ (List.mem_cons_of_mem _ List.mem_cons_self)

theorem nodeKind_iff : ∀ e ∈ definitionKinds, ∀ s, nodeKind s = node e.2 ↔ s = e.1 := by
  have kinds : ∀ e ∈ definitionKinds, nodeKind e.1 = node e.2 ∧ e.2 ∉ ["ERROR", "_ERROR", ""] ∧
      ∀ i ∈ table.toList.zipIdx, i.1.kind = e.2 → i.2 = e.1 := by decide +kernel
  intro e listed s
  obtain ⟨own, other, only⟩ := kinds e listed
  refine ⟨fun equal => ?_, fun same => same ▸ own⟩
  have named : s.kind = e.2 := congrArg NodeKind.name equal
  -- The kinds outside the table are those of errors, or empty.
  by_cases known : s < kindCount
  · exact only _ (mem_table known).1 named
  · exact absurd (named ▸ kind_of_le (Nat.le_of_not_lt known)) other

end Symbol

theorem NodeInfo.isOf_eq (n : NodeInfo) {s : Symbol} {name : String} (listed : (s, name) ∈ Symbol.definitionKinds) :
    n.isOf (node name) = decide (n.symbol = s) := by
  rw [isOf, Bool.eq_iff_iff, beq_iff_eq, decide_eq_true_iff]
  exact Symbol.nodeKind_iff (s, name) listed n.symbol

theorem NodeInfo.isOf_name (n : NodeInfo) : n.isOf (node "_variable_name") = decide n.IsName :=
  n.isOf_eq List.mem_cons_self

/-- The place of a node in the text, and its kind. -/
def NodeInfo.place (n : NodeInfo) : Nat × Nat × String := (n.start.bytes, n.stop.bytes, n.kind)

/-- The place of what was found, and its kind. -/
def Query.Capture.place (c : Capture) : Nat × Nat × String := (c.start, c.stop, c.kind)

namespace Query

/-! ### The names in a field -/

section Ends

variable {f : Field} {s : String} {kind : NodeKind} {os : List Outline}

/-- The search of a field ends with the names in it, if nothing else is seen there and it goes on as long as there are more. -/
theorem endsAmong_eq (named : f.name? = some s) (naming : f.isNaming = true)
    (unnamed : ∀ o ∈ os, ¬ o.info.IsName → ∀ g ∈ o.info.searchField.1, g.isNaming = false)
    (inOrder : os.Pairwise (·.info.LetsPass ·.info)) : endsAmong s (node "_variable_name") [] os =
      (os.map Outline.info).filter (fun n => n.IsName ∧ n.searchField.1 = some f) := by
  induction os with
  | nil => rw [endsAmong, List.map_nil, List.filter_nil]
  | cons o os ih =>
    obtain ⟨first, others⟩ := List.forall_mem_cons.mp unnamed
    obtain ⟨passes, behind⟩ := List.pairwise_cons.mp inOrder
    -- Fields have different names, so a field is told by the name that the pattern asks for.
    have inField : (o.info.searchField.1.bind Field.name? == some s) = decide (o.info.searchField.1 = some f) := by
      rw [Bool.eq_iff_iff, beq_iff_eq, decide_eq_true_iff, Option.bind_eq_some_iff]
      constructor
      · rintro ⟨g, seen, own⟩
        rw [seen, Field.name?_injective own named]
      · exact fun seen => ⟨f, seen, named⟩
    rw [List.map_cons, List.filter_cons, endsAmong_cons o inField, NodeInfo.isOf_name, ih others behind]
    by_cases seen : o.info.searchField.1 = some f
    · -- What is seen in the field is a name.
      have name : o.info.IsName := by
        by_contra other
        exact absurd (naming.symm.trans (first other f seen)) (by decide)
      cases later : o.info.searchField.2 with
      | true => simp [seen, name]
      | false =>
        -- Where the search stops there are no more names in the field.
        have none : ∀ o' ∈ os, o'.info.IsName → o'.info.searchField.1 ≠ some f := fun o' among name' seen' =>
          absurd (later.symm.trans (passes o' among name name' (seen.trans seen'.symm))) Bool.false_ne_true
        simpa [seen, name] using none
    · simp [seen]

end Ends

/-! ### The names below a node -/

section Below

variable {o : Outline} {fields : List Field}

theorem perm_flatMap_filter {α β : Type} [DecidableEq β] (key : α → β) {keys : List β} (distinct : keys.Nodup)
    (l : List α) (covered : ∀ a ∈ l, key a ∈ keys) : (keys.flatMap fun k => l.filter (key · = k)) ~ l := by
  induction keys generalizing l with
  | nil =>
    cases l with
    | nil => exact List.Perm.nil
    | cons a l => exact absurd (covered a List.mem_cons_self) List.not_mem_nil
  | cons k keys ih =>
    obtain ⟨fresh, distinct⟩ := List.nodup_cons.mp distinct
    rw [List.flatMap_cons]
    -- The other keys do not see the elements with the first one.
    have others : keys.flatMap (fun k' => l.filter (key · = k')) =
        keys.flatMap (fun k' => (l.filter (fun a => !decide (key a = k))).filter (key · = k')) := by
      refine List.flatMap_congr fun k' member => ?_
      rw [List.filter_filter]
      refine List.filter_congr fun a _ => ?_
      by_cases same : key a = k'
      · have different : k' ≠ k := fun equal => fresh (equal ▸ member)
        simp [same, different]
      · simp [same]
    rw [others]
    refine (List.Perm.append_left _ (ih distinct _ ?_)).trans (List.filter_append_perm _ l)
    intro a member
    obtain ⟨among, other⟩ := List.mem_filter.mp member
    rcases List.mem_cons.mp (covered a among) with same | known
    · simp [same] at other
    · exact known

/-- The searches of the fields of a node end with the names below it, each of them once. -/
theorem perm_endsAmong (fields : List (Field × String)) (declares : o.Declares (fields.map Prod.fst))
    (distinct : (fields.map Prod.fst).Nodup) (named : ∀ e ∈ fields, e.1.name? = some e.2 ∧ e.1.isNaming = true) :
    (fields.flatMap fun e => endsAmong e.2 (node "_variable_name") [] o.children) ~
      (o.children.map Outline.info).filter (·.IsName) := by
  -- The search of one field ends with the names in it, and every name is in one of the fields.
  have each (e : Field × String) (member : e ∈ fields) : endsAmong e.2 (node "_variable_name") [] o.children =
      ((o.children.map Outline.info).filter (·.IsName)).filter (·.searchField.1 = some e.1) := by
    rw [endsAmong_eq (named e member).1 (named e member).2 declares.unnamed declares.inOrder, List.filter_filter]
    refine List.filter_congr fun n _ => ?_
    rw [Bool.decide_and, Bool.and_comm]
  have covered : ∀ n ∈ (o.children.map Outline.info).filter (·.IsName),
      n.searchField.1 ∈ (fields.map Prod.fst).map some := by
    intro n member
    obtain ⟨among, name⟩ := List.mem_filter.mp member
    obtain ⟨c, below, rfl⟩ := List.mem_map.mp among
    obtain ⟨f, listed, seen⟩ := declares.named c below (of_decide_eq_true name)
    rw [seen]
    exact List.mem_map_of_mem listed
  have apart : ((fields.map Prod.fst).map some).Nodup :=
    List.Pairwise.map some (fun _ _ other same => other (Option.some.inj same)) distinct
  have parts := perm_flatMap_filter (fun n : NodeInfo => n.searchField.1) apart _ covered
  rw [List.flatMap_map, List.flatMap_map] at parts
  rwa [List.flatMap_congr each]

theorem endsAmong_eq_nil (unnamed : ∀ c ∈ o.children, ¬ c.info.IsName) (s : String) :
    endsAmong s (node "_variable_name") [] o.children = [] := by
  refine List.eq_nil_iff_forall_not_mem.mpr fun n member => ?_
  obtain ⟨c, among, rfl, name⟩ := isOf_of_mem_endsAmong member
  rw [NodeInfo.isOf_name] at name
  exact unnamed c among (of_decide_eq_true name)

end Below

/-! ### The patterns for variables -/

section Patterns

variable {p : Pattern} {number : Nat} {o : Outline}

theorem filter_at (name : String) :
    (p.at number o).filter (·.name == name) = if p.capture == name then p.at number o else [] := by
  have own : ∀ c ∈ p.at number o, c.name = p.capture := by
    intro c member
    unfold Pattern.at at member
    split_ifs at member
    · obtain ⟨n, _, rfl⟩ := List.mem_map.mp member
      rfl
    · cases member
  split_ifs with same
  · exact List.filter_eq_self.mpr fun c member => by rwa [own c member]
  · exact List.filter_eq_nil_iff.mpr fun c member => by rwa [own c member]

theorem filter_flatMap_at (name : String) (ps : List (Pattern × Nat)) :
    (ps.flatMap fun (p, number) => p.at number o).filter (·.name == name) =
      (ps.filter (·.1.capture == name)).flatMap fun (p, number) => p.at number o := by
  induction ps with
  | nil => rfl
  | cons e ps ih =>
    rw [List.flatMap_cons, List.filter_append, filter_at, ih, List.filter_cons]
    split_ifs
    · rw [List.flatMap_cons]
    · rfl

/-- The patterns for variables, with their numbers. -/
def variablePatterns : List (Pattern × Nat) := [
  (.within "variable_declaration" "name" "_variable_name" "local.definition.var", 1),
  (.within "export_const" "name" "_variable_name" "local.definition.var", 2),
  (.within "for_statement" "iter_item" "_variable_name" "local.definition.var", 3),
  (.within "for_statement" "iter_key" "_variable_name" "local.definition.var", 4),
  (.within "for_statement" "iter_value" "_variable_name" "local.definition.var", 5)]

theorem filter_locals : locals.patterns.zipIdx.filter (·.1.capture == "local.definition.var") = variablePatterns :=
  rfl

/-- What a pattern for the names in a field finds at a node. -/
theorem place_within (outer field capture : String) (number : Nat) (o : Outline) :
    ((Pattern.within outer field "_variable_name" capture).at number o).map Capture.place =
      if 0 < o.info.stop.bytes ∧ o.info.isOf (node outer) = true then
        (endsAmong field (node "_variable_name") [] o.children).map NodeInfo.place else [] := by
  have kinds : (Pattern.within outer field "_variable_name" capture).kinds.any o.info.isOf = o.info.isOf (node outer) :=
    Bool.or_false _
  -- These patterns name one field only.
  have ends : endsFrom [(field, node "_variable_name")] o = endsAmong field (node "_variable_name") [] o.children := by
    cases o
    rw [endsFrom]
    rfl
  rw [Pattern.at, kinds]
  simp only [Bool.and_eq_true, decide_eq_true_eq]
  split_ifs
  · rw [List.map_map]
    exact congrArg (List.map NodeInfo.place) ends
  · rfl

/-- The patterns for variables find the names right below a node, each of them once, but none below an exported `let`. -/
theorem perm_variablePatterns (wellNamed : o.WellNamed) :
    (variablePatterns.flatMap fun (p, number) => p.at number o).map Capture.place ~
      ((o.children.map Outline.info).filter fun n => n.isOf (node "_variable_name") && !o.info.isOf (node "export_let")).map
        NodeInfo.place := by
  have each : (variablePatterns.flatMap fun (p, number) => p.at number o).map Capture.place =
      variablePatterns.flatMap fun (p, number) => (p.at number o).map Capture.place := List.map_flatMap ..
  rw [each]
  simp only [variablePatterns, List.flatMap_cons, List.flatMap_nil, place_within, List.append_nil]
  rw [o.info.isOf_eq (s := Symbol.declaration) (by decide), o.info.isOf_eq (s := Symbol.exportConst) (by decide),
    o.info.isOf_eq (s := Symbol.forStatement) (by decide), o.info.isOf_eq (s := Symbol.exportLet) (by decide)]
  simp only [decide_eq_true_eq, NodeInfo.isOf_name]
  -- A node with a name below it is a declaration or a loop, and each has its own patterns. An exported `let` has none.
  by_cases names : ∃ c ∈ o.children, c.info.IsName
  · obtain ⟨c, among, name⟩ := names
    cases wellNamed with
    | unnamed none => exact absurd name (none c among)
    | declaration own declares =>
      have stop := declares.stop c among name
      have all := (perm_endsAmong [(Field.declared, "name")] declares (by decide) (by decide)).map NodeInfo.place
      rw [List.flatMap_singleton] at all
      simp only [List.mem_cons, List.not_mem_nil, or_false] at own
      rcases own with own | own | own
      · simpa [own, stop, Symbol.declaration, Symbol.exportConst, Symbol.exportLet, Symbol.forStatement] using all
      · simpa [own, stop, Symbol.declaration, Symbol.exportConst, Symbol.exportLet, Symbol.forStatement] using all
      · simp [own, Symbol.declaration, Symbol.exportConst, Symbol.exportLet, Symbol.forStatement]
    | loop own declares =>
      have stop := declares.stop c among name
      have all := (perm_endsAmong [(21, "iter_item"), (22, "iter_key"), (23, "iter_value")] declares (by decide)
        (by decide)).map NodeInfo.place
      simp only [List.flatMap_cons, List.flatMap_nil, List.append_nil, List.map_append] at all
      simpa [own, stop, Symbol.declaration, Symbol.exportConst, Symbol.exportLet, Symbol.forStatement] using all
  · have none : ∀ c ∈ o.children, ¬ c.info.IsName := fun c among name => names ⟨c, among, name⟩
    have empty : (o.children.map Outline.info).filter
        (fun n => decide n.IsName && !decide (o.info.symbol = Symbol.exportLet)) = [] := by
      refine List.filter_eq_nil_iff.mpr (List.forall_mem_map.mpr fun c among name => ?_)
      exact none c among (of_decide_eq_true (Bool.and_eq_true_iff.mp name).1)
    rw [empty]
    simp [endsAmong_eq_nil none]

end Patterns

/-! ### All definitions of a text -/

theorem filter_found (o : Outline) : (locals.found o).filter (·.name == "local.definition.var") =
    (nodesInto [] o).flatMap fun node => variablePatterns.flatMap fun (p, number) => p.at number node := by
  rw [found, List.filter_flatMap]
  refine List.flatMap_congr fun node _ => ?_
  rw [filter_flatMap_at, filter_locals]

/-- Where only declarations and loops have names below them, the query finds every name that has a node above it, each of them
once, but those right below an exported `let`. -/
theorem perm_captures {o : Outline} (wellNamed : o.All Outline.WellNamed) (root : ¬ o.info.IsName) :
    ((locals.captures o).filter (·.name == "local.definition.var")).map Capture.place ~
      ((o.placed none).filter fun e => e.2.isOf (node "_variable_name") && !e.1.any (·.isOf (node "export_let"))).map
        fun e => e.2.place := by
  have nodes : ∀ n ∈ nodesInto [] o, n.WellNamed := wellNamed.nodesInto [] fun n none => absurd none List.not_mem_nil
  -- What the query asks of a name and the node above it is asked of the names below each node.
  have below (n : Outline) : (n.placedBelow.filter fun e =>
        e.2.isOf (node "_variable_name") && !e.1.any (·.isOf (node "export_let"))).map (fun e => e.2.place) =
      ((n.children.map Outline.info).filter fun c =>
        c.isOf (node "_variable_name") && !n.info.isOf (node "export_let")).map NodeInfo.place := by
    rw [Outline.placedBelow, List.filter_map, List.filter_map, List.map_map, List.map_map]
    rfl
  have placed := Outline.perm_placed none [] o
  rw [List.flatMap_nil, List.append_nil] at placed
  -- Sorting aside, the captures are what the patterns find at each node, which are the names below it.
  calc ((locals.captures o).filter (·.name == "local.definition.var")).map Capture.place
    _ ~ ((locals.found o).filter (·.name == "local.definition.var")).map Capture.place :=
      ((captures_perm locals o).filter _).map _
    _ = (nodesInto [] o).flatMap fun n => (variablePatterns.flatMap fun (p, number) => p.at number n).map Capture.place := by
      rw [filter_found, List.map_flatMap]
    _ ~ (nodesInto [] o).flatMap fun n => ((n.children.map Outline.info).filter fun c =>
          c.isOf (node "_variable_name") && !n.info.isOf (node "export_let")).map NodeInfo.place :=
      List.Perm.flatMap_left _ fun n member => perm_variablePatterns (nodes n member)
    _ = (((none, o.info) :: (nodesInto [] o).flatMap Outline.placedBelow).filter fun e =>
          e.2.isOf (node "_variable_name") && !e.1.any (·.isOf (node "export_let"))).map fun e => e.2.place := by
      rw [List.filter_cons_of_neg (by simp [NodeInfo.isOf_name, root]), List.filter_flatMap, List.map_flatMap]
      exact List.flatMap_congr fun n _ => (below n).symm
    _ ~ _ := (placed.symm.filter _).map _

end Query

theorem parse_wellNamed {text : List CodePoint} (sound : (parse text).errorCost = 0) :
    (parse text).outline.All Outline.WellNamed := by
  have visible : (parse text).symbol.isVisible = true := by
    rcases (parse_isRoot text).symbol with markup | error
    · rw [markup]
      exact Symbol.isVisible_of_sets (by decide) (by decide)
    · rw [error]
      decide
  have all : ∀ o ∈ Tree.outlines none [] Extent.zero (parse text), o.All Outline.WellNamed :=
    (parse_tidy sound).all_wellNamed fun _ none => nomatch none
  refine all _ ?_
  rw [Tree.outlines_seen (by rw [visible]; rfl)]
  exact List.mem_cons_self

/-- The query for local names finds every name in a text that is parsed without error as the definition of a variable, each of
them once, unless it stands right below an exported `let`. -/
theorem locals_definitions (text : List CodePoint) (sound : (parse text).outline.info.hasError = false) :
    ((Query.locals.captures (parse text).outline).filter (·.name == "local.definition.var")).map Query.Capture.place ~
      (((parse text).outline.placed none).filter fun e =>
        e.2.isOf (node "_variable_name") && !e.1.any (·.isOf (node "export_let"))).map fun e => e.2.place := by
  -- Nothing but the two facts is used of the tree, which is large.
  have root := parse_isRoot text
  have wellNamed (free : (parse text).errorCost = 0) := parse_wellNamed free
  generalize parse text = t at sound root wellNamed ⊢
  refine Query.perm_captures (wellNamed (Nat.eq_zero_of_not_pos (of_decide_eq_false sound))) fun name => ?_
  have own : t.symbol = Symbol.variableName := name
  rcases root.symbol with markup | error
  · exact absurd (markup.symm.trans own) (by decide)
  · exact absurd (error.symm.trans own) (by decide)

/-- A loop over two names with a declaration of two names inside. -/
def namesOfLoop : List CodePoint :=
  ['\x7b', '%', ' ', 'f', 'o', 'r', ' ', '(', 'l', 'e', 't', ' ', 'k', ',', ' ', 'v', ' ', 'i', 'n', ' ', 'o', ')', ' ',
    '\x7b', ' ', 'c', 'o', 'n', 's', 't', ' ', 'a', ' ', '=', ' ', '1', ',', ' ', 'b', ' ', '=', ' ', '2', ';', ' ', '\x7d',
    ' ', '%', '\x7d']

theorem locals_definitions_loop : (parse namesOfLoop).outline.info.hasError = false ∧
    ((Query.locals.captures (parse namesOfLoop).outline).filter (·.name == "local.definition.var")).map Query.Capture.place ~
      [(12, 13, "_variable_name"), (15, 16, "_variable_name"), (31, 32, "_variable_name"), (38, 39, "_variable_name")] := by
  obtain ⟨sound, names⟩ : (parse namesOfLoop).outline.info.hasError = false ∧
      (((parse namesOfLoop).outline.placed none).filter fun e =>
        e.2.isOf (node "_variable_name") && !e.1.any (·.isOf (node "export_let"))).map (fun e => e.2.place) =
          [(12, 13, "_variable_name"), (15, 16, "_variable_name"), (31, 32, "_variable_name"),
            (38, 39, "_variable_name")] := by
    decide +kernel
  exact ⟨sound, names ▸ locals_definitions namesOfLoop sound⟩

/-- A `let` that is exported. -/
def exportedLet : List CodePoint :=
  ['\x7b', '%', ' ', 'e', 'x', 'p', 'o', 'r', 't', ' ', 'l', 'e', 't', ' ', 'x', ' ', '=', ' ', '1', ';', ' ', '%', '\x7d']

/-- It is parsed without error and has a name, but the query finds no definition of a variable in it. -/
theorem exportedLet_missed : (parse exportedLet).outline.info.hasError = false ∧
    (((parse exportedLet).outline.placed none).filter (·.2.isOf (node "_variable_name"))).map (·.2.place) =
      [(14, 15, "_variable_name")] ∧
    (Query.locals.captures (parse exportedLet).outline).filter (·.name == "local.definition.var") = [] := by
  decide +kernel

end Ucode

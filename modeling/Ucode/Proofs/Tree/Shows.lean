import Ucode.Proofs.Tree.Balanced

/-!
# What a tree stands for

A tree that the parser builds stands for a piece of text behind a gap, and shows some nodes wherever it is put. `Shows` says
so in one statement, which goes through the tree from the leaves up: there is a lemma for each way in which a rule shows its
parts.
-/
namespace Ucode.Tree

/-- A tree in which nothing is wrong stands behind a gap for a text. What it shows depends on the field and the place. -/
structure Shows (t : Tree) (gap text : List CodePoint) (view : Option Field → Extent → List View) : Prop where
  sound : t.Sound
  plain : t.extra = false
  padding : t.padding = Extent.ofText gap
  size : t.size = Extent.ofText text
  shown : ∀ field before, views none field before t = view field (before + Extent.ofText gap)

section Shows

variable {t u : Tree} {gap text text' : List CodePoint} {view view' : Option Field → Extent → List View} {symbol : Symbol}
  {production : Nat}

theorem Shows.total (shows : t.Shows gap text view) : t.total = Extent.ofText gap + Extent.ofText text := by
  rw [Tree.total, shows.padding, shows.size]

theorem node_sight (sound : t.Sound) (plain : t.extra = false) (guise : Option Symbol) (field : Option Field)
    (before : Extent) (vs : List View) : View.node (t.sight guise field before) vs =
      .sound (guise.getD t.symbol).nodeKind field (before + t.padding) (before + t.padding + t.size) vs := by
  rw [sight, sound.present, plain, sound.errorCost]
  rfl

theorem shows_leaf (l : Leaf) (present : l.isMissing = false) (plain : l.extra = false)
    (padding : l.padding = Extent.ofText gap) (size : l.size = Extent.ofText text) (visible : l.symbol.isVisible = true) :
    (leaf l).Shows gap text fun field start =>
      [.sound l.symbol.nodeKind field start (start + Extent.ofText text) []] := by
  have sound : (leaf l).Sound := .leaf present
  refine ⟨sound, plain, padding, size, ?_⟩
  intro field before
  rw [views, visible, node_sight sound plain]
  simp only [Tree.padding, Tree.size, padding, size]
  rfl

theorem shows_hidden_leaf (l : Leaf) (present : l.isMissing = false) (plain : l.extra = false)
    (padding : l.padding = Extent.ofText gap) (size : l.size = Extent.ofText text) (hidden : l.symbol.isVisible = false) :
    (leaf l).Shows gap text fun _ _ => [] := by
  refine ⟨.leaf present, plain, padding, size, ?_⟩
  intro field before
  rw [views, hidden]
  rfl

theorem Shows.group (shows : t.Shows gap text view) (read : isSkipped symbol = false) (hidden : symbol.isVisible = false)
    (plain : (Production.get production).Plain) : (ofChildren symbol production [t] false).Shows gap text view := by
  have size : (ofChildren symbol production [t] false).size = Extent.ofText text := by
    rw [ofChildren_size, totals, Extent.add_zero, shows.size]
  refine ⟨sound_ofChildren read (fun _ => plain) (by simpa using shows.sound), rfl, shows.padding, size, ?_⟩
  intro field before
  rw [views_hidden _ _ _ _ _ _ hidden, viewsOf_plain plain, row_cons, row_nil, List.append_nil, shows.plain,
    if_neg Bool.false_ne_true, shows.shown]

/-- A hidden node can give its only part a guise in which the part is seen, in whatever field the node stands. -/
theorem shows_guise {inner guise : Symbol} {p : Nat} {ts : List Tree} (sound : (ofChildren inner p ts false).Sound)
    (padding : (ofChildren inner p ts false).padding = Extent.ofText gap)
    (size : (ofChildren inner p ts false).size = Extent.ofText text) (inside : ∀ before, viewsOf p 0 none before ts = [])
    (read : isSkipped symbol = false) (hidden : symbol.visibility = .hidden)
    (names : (Production.get production).field? 0 = none ∧ (Production.get production).alias? 0 = some guise) :
    (ofChildren symbol production [ofChildren inner p ts false] false).Shows gap text fun field start =>
      [.sound guise.nodeKind field start (start + Extent.ofText text) []] := by
  have whole : (ofChildren symbol production [ofChildren inner p ts false] false).size = Extent.ofText text := by
    rw [ofChildren_size, totals, Extent.add_zero, size]
  have sound' : (ofChildren symbol production [ofChildren inner p ts false] false).Sound :=
    sound_ofChildren read (fun auxiliary => by rw [hidden] at auxiliary; cases auxiliary) (by simpa using sound)
  refine ⟨sound', rfl, padding, whole, ?_⟩
  intro field before
  have plain : (ofChildren inner p ts false).extra = false := rfl
  -- The outer node is hidden and gives its guise to the inner one, which shows no parts.
  have unseen : symbol.isVisible = false := by
    rw [Symbol.isVisible, hidden]
    rfl
  rw [views_hidden _ _ _ _ _ _ unseen, viewsOf, viewsOf, plain, fieldIn]
  simp only [Bool.false_eq_true, if_false, names.1, names.2, Option.none_or, List.append_nil]
  rw [views_ofChildren, inside, Option.isSome_some, Bool.true_or, if_pos rfl, node_sight sound rfl, size, padding]
  rfl

/-- A visible node shows itself over what its parts show. -/
theorem shows_node (symbol : Symbol) (production : Nat) {ts : List Tree} (inside : ∀ v ∈ t :: ts, v.Sound)
    (read : isSkipped symbol = false) (visible : symbol.isVisible = true) (padding : t.padding = Extent.ofText gap)
    (size : t.size + totals ts = Extent.ofText text) (below : Extent → List View)
    (shown : ∀ before, viewsOf production 0 none before (t :: ts) = below (before + Extent.ofText gap)) :
    (ofChildren symbol production (t :: ts) false).Shows gap text fun field start =>
      [.sound symbol.nodeKind field start (start + Extent.ofText text) (below start)] := by
  have sound : (ofChildren symbol production (t :: ts) false).Sound := by
    apply sound_ofChildren read _ inside
    -- Only hidden nodes belong to repetitions, so of a visible one nothing is asked.
    intro auxiliary
    rw [hidden_of_auxiliary auxiliary] at visible
    exact absurd visible Bool.false_ne_true
  have whole : (ofChildren symbol production (t :: ts) false).size = Extent.ofText text := by
    rw [ofChildren_size, size]
  refine ⟨sound, rfl, padding, whole, ?_⟩
  intro field before
  rw [views_ofChildren, visible, node_sight sound rfl, whole, ofChildren_padding, padding, shown]
  rfl

end Shows

/-! ### Pieces of a text -/

/-- A tree that is no part of a field stands for a piece of text without a gap, and shows some nodes behind any text. -/
structure Fills (t : Tree) (text : List CodePoint) (view : List CodePoint → List View) : Prop where
  sound : t.Sound
  plain : t.extra = false
  padding : t.padding = Extent.zero
  size : t.size = Extent.ofText text
  shown : ∀ before, views none none (Extent.ofText before) t = view before

section Fills

variable {t u : Tree} {text text' : List CodePoint} {symbol : Symbol} {production : Nat}

theorem Fills.total {view : List CodePoint → List View} (fills : t.Fills text view) : t.total = Extent.ofText text := by
  rw [Tree.total, fills.padding, fills.size, Extent.zero_add]

theorem Shows.fills {view : Option Field → Extent → List View} (shows : t.Shows [] text view) :
    t.Fills text fun before => view none (Extent.ofText before) := by
  refine ⟨shows.sound, shows.plain, shows.padding, shows.size, ?_⟩
  intro before
  rw [shows.shown, Extent.ofText_nil, Extent.add_zero]

/-- A hidden node over two pieces shows what both do. -/
theorem Fills.join {view view' : List CodePoint → List View} (first : t.Fills text view) (second : u.Fills text' view')
    (read : isSkipped symbol = false) (hidden : symbol.isVisible = false) (plain : (Production.get production).Plain) :
    (ofChildren symbol production [t, u] false).Fills (text ++ text') fun before =>
      view before ++ view' (before ++ text) := by
  have size : (ofChildren symbol production [t, u] false).size = Extent.ofText (text ++ text') := by
    rw [ofChildren_size, totals_singleton, second.total, first.size, Extent.ofText_append]
  have inside : ∀ v ∈ [t, u], v.Sound := by
    simpa using ⟨first.sound, second.sound⟩
  refine ⟨sound_ofChildren read (fun _ => plain) inside, rfl, first.padding, size, ?_⟩
  intro before
  rw [views_hidden _ _ _ _ _ _ hidden, viewsOf_plain plain, row_cons, row_cons, row_nil, List.append_nil, ite_self, ite_self,
    first.shown, first.total, ← Extent.ofText_append, second.shown]

end Fills
end Ucode.Tree

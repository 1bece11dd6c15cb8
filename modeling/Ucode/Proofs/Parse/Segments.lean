import Ucode.Proofs.Parse.Operators
import Ucode.Proofs.Parse.Pages

/-!
# Pages are parsed piece by piece

A page is parsed without any choice. In front of each tag the pieces that were read stand on the stack as one tree, or as one
tree and a piece that is still to join it (`Pieces`); the tree stands for the text so far (`Tree.Fills`). A tag and the text
behind it lead from there to the same with two pieces more, so by induction on the tags a page is parsed to what is to be
seen of it (`parse_page`).
-/
namespace Ucode.Parse

open Grammar (StateId)
open Grammar.StateId (operand behindTag behindExpressions behindPieces behindPiece behindMarkup)
open Parse.Frame (top reach)
open Template (expressionMarks)
open Template.Markup (Follows rawText)
open Template.Context (inText atExpression inExpression atEnd)

/-! ### Trees of pieces -/

/-- The leaf of a piece of text, and the context behind it. -/
def textLeaf (state : StateId) (text : List CodePoint) (after : Template.Context) : Leaf :=
  ⟨Symbol.rawText, Extent.zero, Extent.ofText text, false, state, .template after.save true⟩

def openLeaf (state : StateId) : Leaf :=
  ⟨Symbol.expressionOpen, Extent.zero, Extent.ofText expressionMarks.1, false, state, .template inExpression.save true⟩

def blockTree (state : StateId) (inside : Tree) : Tree :=
  Tree.ofChildren Symbol.expressionBlock 0
    [.leaf (openLeaf state), Tree.ofChildren Symbol.expressions 0 [inside] false, .leaf closeLeaf] false

def joinPieces (pieces piece : Tree) : Tree := Tree.ofChildren Symbol.pieces 0 [pieces, piece] false

section Trees

variable {state : StateId} {text : List CodePoint} {pieces piece tree : Tree} {view : List CodePoint → List View}

theorem textLeaf_fills (state : StateId) (text : List CodePoint) (after : Template.Context) :
    (Tree.leaf (textLeaf state text after)).Fills text fun before => [.cover "raw_text" before text []] := by
  have visible := Grammar.excerpt.isVisible Symbol.rawText (by decide)
  have kind := Grammar.excerpt.nodeKind (Symbol.rawText, "raw_text") (by decide)
  have shows : (Tree.leaf (textLeaf state text after)).Shows [] text _ :=
    Tree.shows_leaf (textLeaf state text after) rfl rfl rfl rfl visible
  have fills := shows.fills
  simp only [textLeaf, kind, View.cover_eq] at fills
  exact fills

theorem openLeaf_shows (state : StateId) : (Tree.leaf (openLeaf state)).Shows [] expressionMarks.1 fun field start =>
    [.sound (.node "expression_tag_open") field start (start + Extent.ofText expressionMarks.1) []] := by
  have visible := Grammar.excerpt.isVisible Symbol.expressionOpen (by decide)
  have kind := Grammar.excerpt.nodeKind (Symbol.expressionOpen, "expression_tag_open") (by decide)
  have shows : (Tree.leaf (openLeaf state)).Shows [] expressionMarks.1 _ :=
    Tree.shows_leaf (openLeaf state) rfl rfl rfl rfl visible
  simp only [openLeaf, kind] at shows
  exact shows

theorem closeLeaf_shows : (Tree.leaf closeLeaf).Shows space expressionMarks.2 fun field start =>
    [.sound (.node "expression_tag_close") field start (start + Extent.ofText expressionMarks.2) []] := by
  have visible := Grammar.excerpt.isVisible Symbol.expressionClose (by decide)
  have kind := Grammar.excerpt.nodeKind (Symbol.expressionClose, "expression_tag_close") (by decide)
  have shows : (Tree.leaf closeLeaf).Shows space expressionMarks.2 _ :=
    Tree.shows_leaf closeLeaf rfl rfl rfl rfl visible
  simp only [closeLeaf, kind] at shows
  exact shows

theorem blockTree_fills (state : StateId) (t : Tag) (depicts : Depicts tree (Expression.ofRow t.first t.rest)) :
    (blockTree state tree).Fills (tagText t.code) fun before => [t.view before] := by
  let e := Expression.ofRow t.first t.rest
  have written : e.text = t.code := Expression.text_ofRow t.rest t.first
  have visible := Grammar.excerpt.isVisible Symbol.expressionBlock (by decide)
  have kind := Grammar.excerpt.nodeKind (Symbol.expressionBlock, "expression_block") (by decide)
  have group : (Tree.ofChildren Symbol.expressions 0 [tree] false).Shows space e.text
      fun field start => [e.view field start] :=
    depicts.group (by decide) (Grammar.not_isVisible _ (by decide)) Production.plain_zero
  have first := openLeaf_shows state
  have last := closeLeaf_shows
  have inside : ∀ u ∈ [.leaf (openLeaf state), Tree.ofChildren Symbol.expressions 0 [tree] false, .leaf closeLeaf],
      u.Sound := by
    simpa using ⟨first.sound, group.sound, last.sound⟩
  -- The gaps before the expression and before the closing mark belong to the tag, so its size is that of its whole text.
  have size : (Tree.leaf (openLeaf state)).size +
      Tree.totals [Tree.ofChildren Symbol.expressions 0 [tree] false, .leaf closeLeaf] = Extent.ofText (tagText t.code) := by
    rw [Tree.totals, Tree.totals_singleton, first.size, group.total, last.total, written, tagText]
    simp only [Extent.ofText_append, Extent.add_assoc]
  let below : Extent → List View := fun start =>
    [.sound (.node "expression_tag_open") none start (start + Extent.ofText expressionMarks.1) [],
      e.view none (start + Extent.ofText expressionMarks.1 + Extent.ofText space),
      .sound (.node "expression_tag_close") none
        (start + Extent.ofText expressionMarks.1 + Extent.ofText space + Extent.ofText t.code + Extent.ofText space)
        (start + Extent.ofText expressionMarks.1 + Extent.ofText space + Extent.ofText t.code + Extent.ofText space +
          Extent.ofText expressionMarks.2) []]
  -- Each part of the tag is seen behind the parts before it.
  have shown : ∀ before, Tree.viewsOf 0 0 none before [.leaf (openLeaf state),
      Tree.ofChildren Symbol.expressions 0 [tree] false, .leaf closeLeaf] = below (before + Extent.ofText []) := by
    intro before
    rw [Tree.viewsOf_plain Production.plain_zero, Tree.row_cons, Tree.row_cons, Tree.row_cons, Tree.row_nil]
    simp only [ite_self, first.shown, group.shown, last.shown, first.total, group.total, written, Extent.ofText_nil,
      Extent.add_zero, Extent.zero_add, Extent.add_assoc, List.append_nil, List.cons_append, List.nil_append, below]
  have shows := Tree.shows_node Symbol.expressionBlock 0 inside (by decide) visible first.padding size below shown
  have fills := shows.fills
  simp only [kind, below, ← Extent.ofText_append] at fills
  exact fills

theorem joinPieces_fills {text' : List CodePoint} {view' : List CodePoint → List View} (first : pieces.Fills text view)
    (second : piece.Fills text' view') :
    (joinPieces pieces piece).Fills (text ++ text') fun before => view before ++ view' (before ++ text) := by
  have visibility := Grammar.excerpt.pieces
  exact first.join second (by decide) (Tree.hidden_of_auxiliary visibility) Production.plain_zero

/-- The tree of a page is that of its pieces, with the end of the text behind it. -/
def pageTree (pieces : Tree) (state : StateId) : Tree :=
  Tree.ofChildren Symbol.markup 0 [pieces, .leaf (endLeaf state)] false

theorem pageTree_sound (fills : pieces.Fills text view) : (pageTree pieces state).Sound := by
  apply Tree.sound_ofChildren (by decide) (fun _ => Production.plain_zero)
  simpa using ⟨fills.sound, .leaf rfl⟩

theorem pageTree_view (fills : pieces.Fills text view) :
    (pageTree pieces state).view = .cover "markup" [] text (view []) := by
  have kind := Grammar.excerpt.nodeKind (Symbol.markup, "markup") (by decide)
  have size : (pageTree pieces state).size = Extent.ofText text := by
    rw [pageTree, Tree.ofChildren_size, Tree.totals_singleton, fills.size]
    exact Extent.add_zero _
  have shown : Tree.viewsOf 0 0 none Extent.zero [pieces, .leaf (endLeaf state)] = view [] := by
    have nothing : ∀ before, Tree.views none none before (.leaf (endLeaf state)) = [] := by
      intro before
      rw [Tree.views, endLeaf, Grammar.not_isVisible Symbol.finish (by decide)]
      rfl
    rw [Tree.viewsOf_plain Production.plain_zero, Tree.row_cons, Tree.row_cons, Tree.row_nil, ite_self, ite_self, nothing]
    simpa using fills.shown []
  have plain : (pageTree pieces state).extra = false := rfl
  have padding : (pageTree pieces state).padding = Extent.zero := fills.padding
  -- The root is seen whatever its symbol is, so its view comes from the whole tree and not from `Tree.views`.
  rw [Tree.view_eq, Tree.node_sight (pageTree_sound fills) plain, padding, size]
  change View.sound Symbol.markup.nodeKind none _ _ (Tree.viewsOf 0 0 none Extent.zero [pieces, .leaf (endLeaf state)]) = _
  rw [kind, shown, View.cover, List.nil_append, Extent.zero_add, Extent.zero_add, Extent.ofText_nil]

end Trees

/-! ### Pieces on the stack -/

/-- The frames of some pieces in front of a tag, and the tree that they make up. -/
inductive Pieces : Tree → List Frame → Prop where
  | first (tree : Tree) : Pieces tree [⟨behindPieces, tree⟩]
  | later {pieces piece : Tree} (plain : pieces.extra = false) (plain' : piece.extra = false) :
      Pieces (joinPieces pieces piece) [⟨behindPiece, piece⟩, ⟨behindPieces, pieces⟩]

section Stack

variable {tree : Tree} {frames : List Frame} {token : Symbol}

theorem Pieces.mode (pieces : Pieces tree frames) : Grammar.lexMode (top frames) = ⟨.any, 2⟩ := by
  cases pieces with
  | first => exact Grammar.excerpt.lexMode_markup behindPieces (by decide)
  | later => exact Grammar.excerpt.lexMode_markup behindPiece (by decide)

/-- A piece joins those before it, whatever follows. -/
theorem reduces_pieces {pieces piece : Tree} (plain : pieces.extra = false) (plain' : piece.extra = false)
    (follows : token ∈ [Symbol.rawText, Symbol.expressionOpen, Symbol.finish]) :
    Reduces token 1 [⟨behindPiece, piece⟩, ⟨behindPieces, pieces⟩] [⟨behindPieces, joinPieces pieces piece⟩] := by
  obtain ⟨first, others⟩ := Grammar.excerpt.actions_behindPiece token follows
  obtain ⟨repeats, acts⟩ : ∃ repeats, Grammar.actions behindPiece token = .reduce Symbol.pieces 2 0 :: repeats := by
    cases all : Grammar.actions behindPiece token with
    | nil => rw [all] at first; cases first
    | cons a repeats =>
      rw [all] at first
      cases first
      exact ⟨repeats, rfl⟩
  -- The table would also let the pieces go on without joining, but a repetition is always reduced first.
  rw [acts] at others
  have again : ∀ a ∈ repeats, ∃ state, a = .shiftRepeat state := by
    intro a member
    rcases others a member with same | same
    · exact ⟨_, same⟩
    · exact ⟨_, same⟩
  have goto := Grammar.excerpt.next_markup.2.1
  have reduced : Reduces token 1 ([⟨behindPiece, piece⟩, ⟨behindPieces, pieces⟩] ++ [])
      [⟨Grammar.next (top []) Symbol.pieces, joinPieces pieces piece⟩] :=
    .reduce (by simp [plain, plain']) acts again (.none _)
  rw [show top [] = StateId.start from rfl, goto] at reduced
  exact reduced

theorem Pieces.exists_reduces (pieces : Pieces tree frames)
    (follows : token ∈ [Symbol.rawText, Symbol.expressionOpen, Symbol.finish]) :
    ∃ k, k ≤ 1 ∧ Reduces token k frames [⟨behindPieces, tree⟩] := by
  cases pieces with
  | first => exact ⟨0, Nat.zero_le _, .none _⟩
  | later plain plain' => exact ⟨1, Nat.le_refl _, reduces_pieces plain plain' follows⟩

end Stack

/-! ### Courses over pages -/

/-- The context behind a piece of text, by the kind of tag that follows. -/
def behindText (kind : Option Template.Mode) : Template.Context := { inText with mode := kind.getD .finished }

section Token

variable {text piece rest : List CodePoint} {kind : Option Template.Mode} {frames last : List Frame} {tree root : Tree}
  {state : StateId} {n k : Nat}

theorem changed_of_follows (follows : Follows rest kind) :
    (behindText kind).save ≠ none ∧ (behindText kind).save ≠ inText.save := by cases follows <;> decide

theorem Course.begins (unmarked : Unmarked (piece ++ rest)) (follows : Follows rest kind)
    (raw : rawText (piece ++ rest) = (piece.length, kind))
    (more : CourseFrom (piece ++ rest) n [⟨behindPieces, .leaf (textLeaf StateId.start piece (behindText kind))⟩]
      (behindText kind) root) : Course (piece ++ rest) (n + 1) Config.initial root := by
  have reaches : Reaches (piece ++ rest) Config.initial.frames ([] ++ (piece ++ rest)) := ⟨[], rfl, rfl⟩
  have accepted : Grammar.LexMode.accepts ⟨.any, 2⟩ .rawText = true := by decide
  have mode : Grammar.lexMode (top Config.initial.frames) = ⟨.any, 2⟩ :=
    Grammar.excerpt.lexMode_markup StateId.start (by decide)
  obtain ⟨read, scanned⟩ := Template.Context.scan_text accepted raw follows.plain
  rw [← Template.Context.scan_fresh accepted, ← Nat.zero_add piece.length] at scanned
  exact Course.template (c := Config.initial) (t := .rawText) reaches unmarked rfl mode (by decide) scanned
    (changed_of_follows follows).1 (.none _) (by decide) Grammar.excerpt.actions_start more

theorem CourseFrom.behindTag (unmarked : Unmarked text) (follows : Follows rest kind)
    (raw : rawText (piece ++ rest) = (piece.length, kind)) (reaches : Reaches text frames (piece ++ rest))
    (here : top frames = behindTag) (reduces : Reduces Symbol.rawText k frames last) (few : k < 8 * 64)
    (acts : Grammar.actions (top last) Symbol.rawText = [.shift state])
    (more : CourseFrom text n (⟨state, .leaf (textLeaf behindTag piece (behindText kind))⟩ :: last) (behindText kind)
      root) :
    CourseFrom text (n + 1) frames inText root := by
  -- No gap stands before text: what is read starts right behind the mark.
  have accepted : Grammar.LexMode.accepts ⟨.any, 2⟩ .rawText = true := by decide
  have mode : Grammar.lexMode (top frames) = ⟨.any, 2⟩ := by rw [here, Grammar.excerpt.lexMode_markup _ (by decide)]
  obtain ⟨read, scanned⟩ := Template.Context.scan_text accepted raw follows.plain
  rw [← Nat.zero_add piece.length] at scanned
  rw [← here] at more
  have reaches' : Reaches text frames ([] ++ (piece ++ rest)) := reaches
  exact .template (t := .rawText) rfl reaches' unmarked mode (by decide) scanned (changed_of_follows follows).2 reduces
    (by omega) acts more

theorem CourseFrom.opens (unmarked : Unmarked text) (pieces : Pieces tree frames)
    (reaches : Reaches text frames (expressionMarks.1 ++ (space ++ rest)))
    (more : CourseFrom text n [⟨operand 0, .leaf (openLeaf (top frames))⟩, ⟨behindPieces, tree⟩] inExpression root) :
    CourseFrom text (n + 1) frames atExpression root := by
  obtain ⟨k, few, reduces⟩ := pieces.exists_reduces (show Symbol.expressionOpen ∈ _ by decide)
  have scanned := Template.Context.scan_open rest (show Grammar.LexMode.accepts ⟨.any, 2⟩ .expressionOpen = true by decide)
  have reaches' : Reaches text frames ([] ++ (expressionMarks.1 ++ (space ++ rest))) := reaches
  have changed : inExpression.save ≠ atExpression.save := by decide
  exact .template (t := .expressionOpen) rfl reaches' unmarked pieces.mode (by decide) scanned changed reduces (by omega)
    Grammar.excerpt.actions_behindPieces.2.1 more

theorem CourseFrom.ends (unmarked : Unmarked text) (pieces : Pieces tree frames) (plain : tree.extra = false)
    (reaches : Reaches text frames []) : CourseFrom text 1 frames atEnd (pageTree tree (top frames)) := by
  obtain ⟨k, few, joined⟩ := pieces.exists_reduces (show Symbol.finish ∈ _ by decide)
  have whole : Reduces Symbol.finish 1 [⟨behindPieces, tree⟩]
      [⟨behindMarkup, Tree.ofChildren Symbol.markup 0 [tree] false⟩] :=
    Reduces.one plain Grammar.excerpt.actions_behindPieces.2.2 Grammar.excerpt.next_markup.2.2.1
  exact .finish rfl reaches unmarked pieces.mode (by decide) rfl Template.Context.scan_end (joined.trans whole) (by omega)
    Grammar.excerpt.actions_behindTag.2.2 rfl

end Token

section Round

variable {text piece rest : List CodePoint} {kind : Option Template.Mode} {frames : List Frame} {tree inside : Tree}

/-- When text follows a closing mark, the tag is complete and joins the pieces before it. -/
theorem reduces_block (plain : tree.extra = false) (inside : Tree) (state : StateId) :
    Reduces Symbol.rawText 2 [⟨behindTag, .leaf closeLeaf⟩,
        ⟨behindExpressions, Tree.ofChildren Symbol.expressions 0 [inside] false⟩, ⟨operand 0, .leaf (openLeaf state)⟩,
        ⟨behindPieces, tree⟩] [⟨behindPieces, joinPieces tree (blockTree state inside)⟩] := by
  let front : List Frame := [⟨behindTag, .leaf closeLeaf⟩,
    ⟨behindExpressions, Tree.ofChildren Symbol.expressions 0 [inside] false⟩, ⟨operand 0, .leaf (openLeaf state)⟩]
  have parts : ∀ f ∈ front, f.tree.extra = false := by
    simpa [front] using ⟨rfl, rfl, rfl⟩
  have block := Reduces.single front [⟨behindPieces, tree⟩] parts Grammar.excerpt.actions_behindTag.1
  rw [show top [⟨behindPieces, tree⟩] = behindPieces from rfl, Grammar.excerpt.next_markup.1] at block
  have joined : Reduces Symbol.rawText 1 [⟨behindPiece, blockTree state inside⟩, ⟨behindPieces, tree⟩]
      [⟨behindPieces, joinPieces tree (blockTree state inside)⟩] := reduces_pieces plain rfl (by decide)
  exact block.trans joined

/-- A tag and the text behind it make two more pieces. -/
theorem exists_round (t : Tag) (unmarked : Unmarked text) (pieces : Pieces tree frames) (plain : tree.extra = false)
    (follows : Follows rest kind) (raw : rawText (piece ++ rest) = (piece.length, kind))
    (reaches : Reaches text frames (tagText t.code ++ (piece ++ rest))) :
    ∃ block frames', block.Fills (tagText t.code) (fun before => [t.view before]) ∧
      Pieces (joinPieces (joinPieces tree block) (.leaf (textLeaf behindTag piece (behindText kind)))) frames' ∧
      Reaches text frames' rest ∧
      ∀ n root, CourseFrom text n frames' (behindText kind) root →
        CourseFrom text (n + (4 + 2 * t.rest.length)) frames atExpression root := by
  -- Whether the last piece has joined the others or not, the opening mark ends up on the tree of them all.
  let state := top frames
  let base : List Frame := [⟨operand 0, .leaf (openLeaf state)⟩, ⟨behindPieces, tree⟩]
  obtain ⟨_, _, joined⟩ := pieces.exists_reduces (show Symbol.expressionOpen ∈ _ by decide)
  let behind := expressionMarks.2 ++ (piece ++ rest)
  obtain ⟨others, spaced⟩ := Expression.exists_space t.rest behind
  have written : tagText t.code ++ (piece ++ rest) =
      expressionMarks.1 ++ (space ++ (t.first.text ++ (Expression.rowText t.rest ++ (space ++ behind)))) := by
    simp only [tagText, Tag.code, behind, List.append_assoc]
  rw [written] at reaches
  have opened : Reaches text base (space ++ (t.first.text ++ (Expression.rowText t.rest ++ (space ++ behind)))) := by
    have begins : Reaches text frames ([] ++ (expressionMarks.1 ++
        (space ++ (t.first.text ++ (Expression.rowText t.rest ++ (space ++ behind)))))) := reaches
    exact begins.push joined.reach rfl
  -- A name is read up to the space behind it, which is that of an operator or that of the closing mark.
  rw [spaced] at opened
  obtain ⟨l, word, reaches₁, first⟩ := exists_word t.first unmarked rfl .none opened
  rw [← spaced] at reaches₁
  obtain ⟨inside, depicts, reaches₂, row⟩ := exists_row t.rest unmarked rfl .none word reaches₁
  rw [Expression.unwind] at depicts
  have reduces := reduces_block plain inside state
  -- The text behind the tag begins where the tag ends: there is no gap before it.
  have reaches₃ : Reaches text _ ([] ++ (piece ++ rest)) := reaches₂
  refine ⟨blockTree state inside, _, blockTree_fills state t depicts, .later rfl rfl, reaches₃.push reduces.reach rfl, ?_⟩
  intro n root more
  have text := CourseFrom.behindTag unmarked follows raw reaches₂ rfl reduces (by decide)
    Grammar.excerpt.actions_behindPieces.1 more
  have tag := CourseFrom.opens unmarked pieces reaches (first _ root (row _ root text))
  have tokens : n + 1 + 1 + 2 * t.rest.length + 1 + 1 = n + (4 + 2 * t.rest.length) := by omega
  rwa [tokens] at tag

end Round

/-- The tags of a page are read one after the other. The tree of the pieces grows by what is to be seen of them. -/
theorem exists_rounds {text before : List CodePoint} {frames : List Frame} {tree : Tree} {view : List CodePoint → List View}
    (tags : List (Tag × RawText)) (unmarked : Unmarked text) (pieces : Pieces tree frames) (fills : tree.Fills before view)
    (reaches : Reaches text frames (Page.tagsText tags)) :
    ∃ tree' frames' k, Pieces tree' frames' ∧ k ≤ (Page.tagsText tags).length ∧
      tree'.Fills (before ++ Page.tagsText tags) (fun front => view front ++ Page.tagViews (front ++ before) tags) ∧
      Reaches text frames' [] ∧
      ∀ n root, CourseFrom text n frames' atEnd root →
        CourseFrom text (n + k) frames (behindText (Page.opener tags)) root := by
  -- The text before the tags grows with each round, and with it the tree and what it shows.
  induction tags generalizing before frames tree view with
  | nil =>
    refine ⟨tree, frames, 0, pieces, Nat.le_refl _, ?_, reaches, fun _ _ more => more⟩
    simp only [Page.tagsText, Page.tagViews, List.append_nil]
    exact fills
  | cons tag tags ih =>
    obtain ⟨t, raw⟩ := tag
    have follows := Page.follows tags
    have read := Template.Markup.rawText_append follows raw.untagged
    -- The first tag with its text, and then the others.
    obtain ⟨block, frames₁, filled, pieces₁, reaches₁, round⟩ :=
      exists_round t unmarked pieces fills.plain follows read reaches
    have joined := joinPieces_fills (joinPieces_fills fills filled)
      (textLeaf_fills behindTag raw.text (behindText (Page.opener tags)))
    obtain ⟨tree', frames', k, pieces', few, fills', reaches', rounds⟩ := ih pieces₁ joined reaches₁
    refine ⟨tree', frames', k + (4 + 2 * t.rest.length), pieces', ?_, ?_, reaches', ?_⟩
    · have tokens := t.tokens_le
      simp only [Page.tagsText, List.length_append]
      omega
    · simp only [Page.tagsText, Page.tagViews, List.append_assoc, List.singleton_append] at fills' ⊢
      exact fills'
    · intro n root more
      rw [← Nat.add_assoc]
      exact round _ root (rounds n root more)

/-- A sound tree that a course leads to shows what the parsed text does. -/
theorem view_of_course {text : List CodePoint} {n : Nat} {root : Tree} (course : Course text n Config.initial root)
    (few : n ≤ Session.stepsFor text) (sound : root.Sound) : (parse text).view = root.view := by
  rw [parse, course.tree_eq few, Tree.view_balance sound]

theorem unmarked_append {text rest : List CodePoint} {kind : Option Template.Mode} (unmarked : Unmarked text)
    (follows : Follows rest kind) : Unmarked (text ++ rest) := by
  cases text with
  | cons c others => exact unmarked
  | nil =>
    -- Behind an empty text stands nothing or the opening mark of a tag.
    cases follows with
    | nothing => exact unmarked
    | tag rest =>
      have differs : some (Char.toNat '{') ≠ some CodePoint.byteOrderMark := by decide
      exact differs

/-- A page is parsed to the text and the tags that it is made of. -/
theorem parse_page (page : Page) (unmarked : Unmarked page.head.text) : (parse page.text).view = page.view := by
  have follows := Page.follows page.tags
  have unmarked' : Unmarked page.text := unmarked_append unmarked follows
  have read := Template.Markup.rawText_append follows page.head.untagged
  let first : Tree := .leaf (textLeaf StateId.start page.head.text (behindText (Page.opener page.tags)))
  have fills := textLeaf_fills StateId.start page.head.text (behindText (Page.opener page.tags))
  have reaches : Reaches page.text [⟨behindPieces, first⟩] (Page.tagsText page.tags) := by
    refine ⟨page.head.text, rfl, ?_⟩
    rw [reach, reach, fills.total, Extent.zero_add]
  obtain ⟨tree, frames, k, pieces, few, filled, reaches', rounds⟩ :=
    exists_rounds page.tags unmarked' (.first first) fills reaches
  -- The tree of the pieces is complete when nothing is left but the end of the text.
  have ends := CourseFrom.ends unmarked' pieces filled.plain reaches'
  have course := Course.begins unmarked' follows read (rounds 1 _ ends)
  have enough : 1 + k + 1 ≤ Session.stepsFor page.text := by
    simp only [Session.stepsFor, Page.text, List.length_append]
    omega
  rw [Page.text, view_of_course course enough (pageTree_sound filled), pageTree_view filled]
  rfl

end Ucode.Parse

import Ucode.Proofs.Parse.Segments

/-!
# What markup is parsed to

Names in tags, expressions of any length in a tag, and texts that begin like scripts: what is to be seen of each of them,
down to the places where the nodes stand. All of it follows from how pages are parsed, but for text that ends in an opening
brace and for the first token, of which nothing but the start of a course is needed.
-/
namespace Ucode

open Template (expressionMarks)
open Template.Markup (rawText)
open Parse

/-! ### Names in tags -/

/-- What is to be seen of tags around names, and of the text behind each of them. -/
def nameViews (before : List CodePoint) : List (Name × RawText) → List View
  | [] => []
  | (x, raw) :: tags =>
    let behind := before ++ tagText x.text
    .tag before x.text (.cover "variable" (before ++ expressionMarks.1 ++ space) x.text []) ::
      .cover "raw_text" behind raw.text [] :: nameViews (behind ++ raw.text) tags

section Names

variable (before : List CodePoint) (tags : List (Name × RawText))

theorem length_nameViews : (nameViews before tags).length = 2 * tags.length := by
  induction tags generalizing before with
  | nil => rfl
  | cons tag tags ih =>
    simp only [nameViews, List.length_cons, ih]
    omega

theorem tagViews_names : Page.tagViews before (tags.map fun tag => (⟨tag.1, []⟩, tag.2)) = nameViews before tags := by
  induction tags generalizing before with
  | nil => rfl
  | cons tag tags ih =>
    obtain ⟨x, raw⟩ := tag
    have code : (Tag.mk x []).code = x.text := List.append_nil x.text
    have row : Expression.ofRow x [] = .name x := by rw [Expression.ofRow, Expression.climb_nil]
    rw [List.map_cons, Page.tagViews, nameViews, Tag.view, code, row, ih, Expression.view, View.cover_eq]

theorem tagsText_names : Page.tagsText (tags.map fun tag => (⟨tag.1, []⟩, tag.2)) =
    tags.flatMap fun tag => tagText tag.1.text ++ tag.2.text := by
  induction tags with
  | nil => rfl
  | cons tag tags ih =>
    obtain ⟨x, raw⟩ := tag
    have code : (Tag.mk x []).code = x.text := List.append_nil x.text
    rw [List.map_cons, Page.tagsText, ih, code, List.flatMap_cons, List.append_assoc]

end Names

/-- Text and names in tags are parsed without errors to pieces of text and tags in turn, one piece more than tags, and each
of them stands where it is written. Text without opening braces and without NUL can be such a piece (`RawText.ofPlain`). -/
theorem parse_names (head : RawText) (tags : List (Name × RawText))
    (unmarked : head.text.head? ≠ some CodePoint.byteOrderMark) :
    let text := head.text ++ tags.flatMap fun tag => tagText tag.1.text ++ tag.2.text
    let pieces := View.cover "raw_text" [] head.text [] :: nameViews head.text tags
    (parse text).view = .cover "markup" [] text pieces ∧ pieces.length = 2 * tags.length + 1 := by
  have parsed := Parse.parse_page ⟨head, tags.map fun tag => (⟨tag.1, []⟩, tag.2)⟩ unmarked
  rw [Page.view, Page.text, tagsText_names, tagViews_names] at parsed
  refine ⟨parsed, ?_⟩
  rw [List.length_cons, length_nameViews]

theorem parse_names_one :
    let before : List CodePoint := ['a']
    let tag : List CodePoint := ['{', '{', ' ', 'x', ' ', '}', '}']
    before.head? ≠ some CodePoint.byteOrderMark ∧ (parse (before ++ tag)).view = .cover "markup" [] (before ++ tag)
      [.cover "raw_text" [] before [],
        .cover "expression_block" before tag
          [.cover "expression_tag_open" before ['{', '{'] [], .cover "variable" ['a', '{', '{', ' '] ['x'] [],
            .cover "expression_tag_close" ['a', '{', '{', ' ', 'x', ' '] ['}', '}'] []],
        .cover "raw_text" (before ++ tag) [] []] := by
  have differs : ([Char.toNat 'a'] : List CodePoint).head? ≠ some CodePoint.byteOrderMark := by decide
  have parsed := parse_names (.ofPlain ['a'] (by decide)) [(⟨['x'], rfl, by decide⟩, .empty)] differs
  exact ⟨differs, parsed.1⟩

/-! ### Expressions -/

/-- Operands with operators between them are parsed without errors to the expression that precedence climbing finds. -/
theorem parse_row (x : Name) (ops : List (Operator × Name)) :
    let code := x.text ++ Expression.rowText ops
    let expression := Expression.ofRow x ops
    (parse (tagText code)).view = .cover "markup" [] (tagText code)
      [.cover "raw_text" [] [] [], .tag [] code (expression.view none (Extent.ofText (expressionMarks.1 ++ space))),
        .cover "raw_text" (tagText code) [] []] := by
  have parsed := Parse.parse_page ⟨RawText.empty, [(⟨x, ops⟩, RawText.empty)]⟩ (by simp [RawText.empty, Unmarked])
  simp only [Page.text, Page.view, Page.tagsText, Page.tagViews, RawText.empty, Tag.code, Tag.view, List.append_nil,
    List.nil_append] at parsed
  exact parsed

/-! ### Texts that begin like scripts -/

section Start

variable {text : List CodePoint}

/-- Text in which no tag begins is parsed to one piece of text. -/
theorem parse_untagged (unmarked : Unmarked text) (untagged : rawText text = (text.length, none)) :
    (parse text).view = .cover "markup" [] text [.cover "raw_text" [] text []] := by
  let first : Tree := .leaf (textLeaf Grammar.StateId.start text (behindText none))
  have fills := textLeaf_fills Grammar.StateId.start text (behindText none)
  have whole : Unmarked (text ++ []) := by rwa [List.append_nil]
  have read : rawText (text ++ []) = (text.length, none) := by rwa [List.append_nil]
  have reaches : Reaches (text ++ []) [⟨Grammar.StateId.behindPieces, first⟩] [] := by
    refine ⟨text, rfl, ?_⟩
    rw [Frame.reach, Frame.reach, fills.total, Extent.zero_add]
  -- The text itself is the only piece, and nothing follows it.
  have ends := CourseFrom.ends whole (.first first) rfl reaches
  have course := Course.begins whole .nothing read ends
  rw [List.append_nil] at course
  rw [view_of_course course (by simp only [Session.stepsFor]; omega) (pageTree_sound fills), pageTree_view fills]

/-- Whatever a text holds, the first token that is read is the text up to the first tag. -/
theorem exists_reads_start (unmarked : Unmarked text) : ∃ after,
    Config.initial.Reads text (textLeaf Grammar.StateId.start (text.take (rawText text).1) after) after := by
  have accepted : Grammar.LexMode.accepts ⟨.any, 2⟩ .rawText = true := by decide
  have mode : Grammar.lexMode Grammar.StateId.start = ⟨.any, 2⟩ := Grammar.excerpt.lexMode_markup _ (by decide)
  have reaches : Reaches text Config.initial.frames text := ⟨[], rfl, rfl⟩
  obtain ⟨after, read, scanned, outside⟩ := Template.Context.exists_scan_text accepted text
  rw [← Template.Context.scan_fresh accepted] at scanned
  -- Before the first token there is no context at all, so even an empty text changes it.
  have changed : after.save ≠ none := by
    rw [Template.Context.save, outside, if_pos (by decide)]
    exact Option.some_ne_none _
  refine ⟨after, fun advanced => ?_⟩
  have state : Grammar.StateId.start ≠ Grammar.StateId.recovery := by decide
  exact Situation.read_template (s := ⟨Grammar.StateId.start, none, advanced, true⟩) mode state
    (reaches.markLength unmarked _ _ _) (by decide) scanned changed

end Start

/-- Text that begins like a script is no script. The first token is a piece of text, and it holds the beginning; and if there
is no tag, the tree is that piece alone. -/
theorem parse_hashBang (rest : List CodePoint) :
    let text : List CodePoint := Char.toNat '#' :: Char.toNat '!' :: rest
    (∃ after, Config.initial.Reads text (textLeaf Grammar.StateId.start (text.take (rawText text).1) after) after ∧
      2 ≤ (rawText text).1) ∧
    (rawText text = (text.length, none) →
      (parse text).view = .cover "markup" [] text [.cover "raw_text" [] text []]) := by
  intro text
  have unmarked : Unmarked text := by
    have differs : some (Char.toNat '#') ≠ some CodePoint.byteOrderMark := by decide
    exact differs
  -- Neither of the first two code points is a brace, so no tag begins at them.
  have begins : 2 ≤ (rawText text).1 := by
    have inner : rawText (Char.toNat '!' :: rest) = ((rawText rest).1 + 1, (rawText rest).2) :=
      Template.Markup.rawText_cons (by decide) (by cases rest <;> rfl) rfl
    rw [Template.Markup.rawText_cons (by decide) rfl inner]
    omega
  obtain ⟨after, reads⟩ := exists_reads_start unmarked
  exact ⟨⟨after, reads, begins⟩, parse_untagged unmarked⟩

/-- A line that names an interpreter, and a statement. -/
def script : List CodePoint :=
  ['#', '!', 'u', 'c', 'o', 'd', 'e', '\n', 'l', 'e', 't', ' ', 'x', ' ', '=', ' ', '1', ';']

theorem parse_hashBang_script : rawText script = (script.length, none) ∧
    (parse script).view = .cover "markup" [] script [.cover "raw_text" [] script []] := by
  have untagged : rawText script = (script.length, none) := by decide
  exact ⟨untagged, (parse_hashBang _).2 untagged⟩

/-- The first line of a script is not seen as such. -/
theorem hashBang_unseen : script.take 2 = ['#', '!'].map Char.toNat ∧ (parse script).view.children.head? ≠
    some (.cover "hash_bang_line" [] (script.takeWhile (· ≠ Char.toNat '\n')) []) := by
  refine ⟨by decide, ?_⟩
  intro promised
  have unmarked : script.head? ≠ some CodePoint.byteOrderMark := by decide
  rw [parse_untagged unmarked (by decide)] at promised
  have kinds := congrArg (Option.map fun v => v.sight.kind.name) promised
  have different : some "raw_text" ≠ some "hash_bang_line" := by decide
  exact different kinds

end Ucode

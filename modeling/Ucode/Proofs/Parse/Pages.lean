import Ucode.Proofs.Parse.Precedence
import Ucode.Proofs.Template.Expressions

/-!
# Pages

Text with expression tags in it, and what is to be seen of it: the pieces of text and the tags in turn, each where it stands.
A piece of text may hold any code points that do not begin a tag. Between two tags, before the first one and behind the
last one there is always a piece, though it may be empty.
-/
namespace Ucode

open Template (expressionMarks Mode)

/-! ### Text -/

namespace Template.Markup

variable {c : CodePoint} {text rest others behind : List CodePoint} {kind : Option Mode} {n : Nat}

theorem opener?_congr (c : CodePoint) (same : rest.head? = others.head?) :
    opener? (c :: rest) = opener? (c :: others) := by
  cases rest with
  | nil =>
    cases others with
    | nil => rfl
    | cons d others => cases same
  | cons d rest =>
    cases others with
    | nil => cases same
    | cons e others =>
      cases same
      rfl

theorem rawText_cons (more : c ≠ CodePoint.nul) (none : opener? (c :: rest) = none) (read : rawText rest = (n, kind)) :
    rawText (c :: rest) = (n + 1, kind) := by
  rw [rawText, if_neg more, none]
  simp only [read]

theorem of_rawText_cons (passed : rawText (c :: rest) = (n + 1, kind)) :
    c ≠ CodePoint.nul ∧ opener? (c :: rest) = none ∧ rawText rest = (n, kind) := by
  rw [rawText] at passed
  split at passed
  · cases passed
  · next more =>
    cases opens : opener? (c :: rest) with
    | some tag =>
      rw [opens] at passed
      cases passed
    | none =>
      rw [opens] at passed
      cases passed
      exact ⟨more, rfl, rfl⟩

/-- No tag begins in the text, though a brace may follow it. -/
def Untagged (text : List CodePoint) : Prop := rawText (text ++ [Char.toNat '{']) = (text.length + 1, none)

/-- What stands behind a piece of text, and the kind of tag that it begins with. -/
inductive Follows : List CodePoint → Option Mode → Prop where
  | nothing : Follows [] none
  | tag (rest : List CodePoint) : Follows (expressionMarks.1 ++ rest) (some .expressionTag)

theorem Follows.plain (follows : Follows behind kind) : kind ≠ some .comment := by cases follows <;> decide

theorem rawText_append (follows : Follows behind kind) (untagged : Untagged text) :
    rawText (text ++ behind) = (text.length, kind) := by
  induction text with
  | nil => cases follows <;> rfl
  | cons c text ih =>
    obtain ⟨more, none, inner⟩ := of_rawText_cons untagged
    -- The last code point of the text sees a brace or nothing; every other one sees the next one, whatever follows.
    have passed : opener? (c :: (text ++ behind)) = Option.none := by
      cases text with
      | cons d text => exact none ▸ opener?_congr c rfl
      | nil =>
        cases follows with
        | nothing => rfl
        | tag rest => exact none ▸ opener?_congr c rfl
    exact rawText_cons more passed (ih inner)

theorem untagged_of_plain (plain : ∀ c ∈ text, c ≠ Char.toNat '{' ∧ c ≠ CodePoint.nul) : Untagged text := by
  induction text with
  | nil => rfl
  | cons c text ih =>
    obtain ⟨⟨brace, more⟩, others⟩ := List.forall_mem_cons.mp plain
    have none : opener? (c :: (text ++ [Char.toNat '{'])) = Option.none := by
      cases text <;> exact if_neg brace
    exact rawText_cons more none (ih others)

end Template.Markup

open Template.Markup (Follows)

/-- A piece of text between tags. -/
structure RawText where
  text : List CodePoint
  untagged : Template.Markup.Untagged text

namespace RawText

/-- Text without opening braces and without NUL. -/
def ofPlain (text : List CodePoint) (plain : ∀ c ∈ text, c ≠ Char.toNat '{' ∧ c ≠ CodePoint.nul) : RawText :=
  ⟨text, Template.Markup.untagged_of_plain plain⟩

def empty : RawText := ⟨[], rfl⟩

end RawText

/-! ### Tags -/

/-- An expression tag around a piece of code, with single spaces. -/
def tagText (code : List CodePoint) : List CodePoint :=
  expressionMarks.1 ++ (space ++ (code ++ (space ++ expressionMarks.2)))

/-- What is seen of a piece of text behind another one. -/
def View.cover (kind : String) (before text : List CodePoint) (children : List View) : View :=
  .sound (.node kind) none (Extent.ofText before) (Extent.ofText (before ++ text)) children

theorem View.cover_eq (kind : String) (before text : List CodePoint) (children : List View) :
    View.sound (.node kind) none (Extent.ofText before) (Extent.ofText before + Extent.ofText text) children =
      .cover kind before text children := by
  rw [View.cover, Extent.ofText_append]

/-- What is seen of an expression tag in which something is seen of the code. -/
def View.tag (before code : List CodePoint) (inside : View) : View :=
  .cover "expression_block" before (tagText code)
    [.cover "expression_tag_open" before expressionMarks.1 [], inside,
      .cover "expression_tag_close" (before ++ expressionMarks.1 ++ space ++ code ++ space) expressionMarks.2 []]

/-- A tag with names and operators between them. -/
structure Tag where
  first : Name
  rest : List (Operator × Name)

namespace Tag

def code (t : Tag) : List CodePoint := t.first.text ++ Expression.rowText t.rest

/-- A tag has no more tokens than code points, the text behind it counted in. -/
theorem tokens_le (t : Tag) : 4 + 2 * t.rest.length ≤ (tagText t.code).length := by
  have row := Expression.length_rowText t.rest
  simp only [tagText, code, space, expressionMarks, List.length_append, List.length_cons, List.length_nil]
  omega

/-- What is seen of a tag behind a piece of text. -/
def view (before : List CodePoint) (t : Tag) : View :=
  .tag before t.code
    ((Expression.ofRow t.first t.rest).view none (Extent.ofText (before ++ expressionMarks.1 ++ space)))

end Tag

/-! ### Tags and text in turn -/

/-- A text, and tags with the texts behind them. -/
structure Page where
  head : RawText
  tags : List (Tag × RawText)

namespace Page

/-- The text of tags and of what stands behind each of them. -/
def tagsText : List (Tag × RawText) → List CodePoint
  | [] => []
  | (t, raw) :: tags => tagText t.code ++ (raw.text ++ tagsText tags)

def text (p : Page) : List CodePoint := p.head.text ++ tagsText p.tags

/-- What is seen of tags behind a text. -/
def tagViews (before : List CodePoint) : List (Tag × RawText) → List View
  | [] => []
  | (t, raw) :: tags =>
    let behind := before ++ tagText t.code
    t.view before :: .cover "raw_text" behind raw.text [] :: tagViews (behind ++ raw.text) tags

def view (p : Page) : View :=
  .cover "markup" [] p.text (.cover "raw_text" [] p.head.text [] :: tagViews p.head.text p.tags)

def opener : List (Tag × RawText) → Option Mode
  | [] => none
  | _ :: _ => some .expressionTag

theorem follows (tags : List (Tag × RawText)) : Follows (tagsText tags) (opener tags) := by
  cases tags with
  | nil => exact .nothing
  | cons tag tags =>
    obtain ⟨t, raw⟩ := tag
    rw [tagsText, tagText, List.append_assoc]
    exact .tag _

end Page
end Ucode

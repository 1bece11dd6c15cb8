import Ucode.Proofs.Parse.Course
import Ucode.Proofs.Template.Closing
import Ucode.Proofs.Template.Snapshot

/-!
# Reading in a course

A course reads one token at a time. What is read depends on the state on top of the stack, the context behind the last
template token and the rest of the text; how the template reader was left by earlier attempts does not matter, since
each token that was read brings its context along. So a course is given here from frames, a context and a rest on
(`CourseFrom`), and `CourseFrom.template` and `CourseFrom.code` lead it over one token.
-/
namespace Ucode

theorem CodePoint.width_pos (c : CodePoint) : 0 < c.width := by
  unfold width
  split_ifs <;> decide

theorem Extent.bytes_eq_zero {text : List CodePoint} (none : (Extent.ofText text).bytes = 0) : text = [] := by
  rw [Extent.bytes_ofText] at none
  cases text with
  | nil => rfl
  | cons c rest =>
    have positive := c.width_pos
    rw [CodePoint.widths] at none
    omega

namespace Parse

open Grammar (StateId LexMode)
open Parse.Frame (top reach)

/-! ### One look at the text -/

namespace Situation

variable {s : Situation} {m : LexMode} {reader after : Template.Context} {rest : List CodePoint} {start stop read : Nat}

theorem template?_some {t : Template.Token} (unmarked : s.markLength 0 rest = 0) (asked : m.template ≠ 0)
    (scanned : (reader.resume s.context).scan m.accepts rest = ⟨after, some t, start, stop, read⟩)
    (changed : after.save ≠ s.context) :
    s.template? m false 0 reader rest = (after, some ⟨LexMode.symbolOf t, start, stop, .template after.save true⟩) := by
  have differs : (after.save != s.context) = true := by simp [changed]
  have kept : s.ignores false (LexMode.symbolOf t) stop true = false := by simp [ignores]
  rw [template?, if_neg asked]
  simp only [unmarked, List.drop_zero, scanned, Template.Scan.behind, Nat.add_zero, differs, kept, Bool.false_eq_true,
    if_false]

theorem template?_none (unmarked : s.markLength 0 rest = 0) (asked : m.template ≠ 0)
    (scanned : ((reader.resume s.context).scan m.accepts rest).token = none) :
    s.template? m false 0 reader rest = (((reader.resume s.context).scan m.accepts rest).context, none) := by
  rw [template?, if_neg asked]
  simp only [unmarked, List.drop_zero, Template.Scan.behind, scanned]

theorem read_template {t : Template.Token} (mode : Grammar.lexMode s.state = m) (state : s.state ≠ StateId.recovery)
    (unmarked : s.markLength 0 rest = 0) (asked : m.template ≠ 0)
    (scanned : (reader.resume s.context).scan m.accepts rest = ⟨after, some t, start, stop, read⟩)
    (changed : after.save ≠ s.context) :
    s.read reader rest = (after, s.leafOf rest (LexMode.symbolOf t) start stop (.template after.save true)) := by
  unfold Situation.read find
  rw [if_neg state, mode, token?, template?_some unmarked asked scanned changed]

theorem read_code {lexeme : Code.Reading} {symbol : Symbol} {reserved : Bool} (mode : Grammar.lexMode s.state = m)
    (state : s.state ≠ StateId.recovery) (unmarked : s.markLength 0 rest = 0) (asked : m.template ≠ 0)
    (scanned : ((reader.resume s.context).scan m.accepts rest).token = none)
    (found : Code.read? m.code rest = some lexeme)
    (named : (if lexeme.symbol = Symbol.word then s.wordSymbol (lexeme.stop - lexeme.start) (rest.drop lexeme.start)
      else (lexeme.symbol, false)) = (symbol, reserved)) :
    s.read reader rest = (((reader.resume s.context).scan m.accepts rest).context,
      s.leafOf rest symbol lexeme.start lexeme.stop (.code reserved)) := by
  unfold Situation.read find
  rw [if_neg state, mode, token?, template?_none unmarked asked scanned, code?]
  simp only [unmarked, List.drop_zero, found, Nat.zero_add, named]

theorem leafOf_append {symbol : Symbol} {origin : Origin} (gap piece behind : List CodePoint) :
    s.leafOf (gap ++ (piece ++ behind)) symbol gap.length (gap.length + piece.length) origin =
      ⟨symbol, Extent.ofText gap, Extent.ofText piece, symbol == Symbol.finish, s.state, origin⟩ := by
  simp [leafOf]

end Situation

/-! ### One token of a course -/

def Unmarked (text : List CodePoint) : Prop := text.head? ≠ some CodePoint.byteOrderMark

/-- Some frames hold all of a text but its rest. -/
def Reaches (text : List CodePoint) (frames : List Frame) (rest : List CodePoint) : Prop :=
  ∃ front, text = front ++ rest ∧ reach frames = Extent.ofText front

/-- From some frames and a context on, however the template reader was left. -/
def CourseFrom (text : List CodePoint) (n : Nat) (frames : List Frame) (context : Template.Context) (root : Tree) : Prop :=
  ∀ reader, Course text n ⟨frames, context.save, reader⟩ root

section Token

variable {text gap piece rest : List CodePoint} {frames last : List Frame} {c : Config} {context after : Template.Context}
  {m : LexMode} {state : StateId} {k n : Nat} {root : Tree}

theorem Reaches.push {t : Tree} (reaches : Reaches text frames (gap ++ (piece ++ rest))) (same : reach last = reach frames)
    (total : t.total = Extent.ofText gap + Extent.ofText piece) : Reaches text (⟨state, t⟩ :: last) rest := by
  obtain ⟨front, rfl, place⟩ := reaches
  refine ⟨front ++ gap ++ piece, by simp, ?_⟩
  rw [reach, same, place, total, Extent.ofText_append, Extent.ofText_append, Extent.add_assoc]

theorem Reaches.markLength (reaches : Reaches text frames rest) (unmarked : Unmarked text) (state : StateId)
    (context : Option Template.Snapshot) (advanced : Bool) :
    (Situation.mk state context advanced ((reach frames).bytes == 0)).markLength 0 rest = 0 := by
  obtain ⟨front, rfl, place⟩ := reaches
  unfold Situation.markLength
  rw [if_neg]
  rintro ⟨start, _, mark⟩
  have empty : front = [] := Extent.bytes_eq_zero (by simpa [place] using start)
  subst empty
  exact unmarked mark

theorem Reaches.drop (reaches : Reaches text frames rest) : text.drop (reach frames).points = rest := by
  obtain ⟨front, rfl, place⟩ := reaches
  rw [place, Extent.points_ofText, List.drop_left]

/-- Recovery has a set of template tokens of its own. -/
theorem ne_recovery (mode : Grammar.lexMode state = m) (asked : 1 < m.template) : state ≠ StateId.recovery := by
  rintro rfl
  have set : (Grammar.lexMode StateId.recovery).template = 1 := by decide +kernel
  rw [mode] at set
  omega

theorem Course.template {t : Template.Token} {read : Nat} (reaches : Reaches text c.frames (gap ++ (piece ++ rest)))
    (unmarked : Unmarked text) (resumed : c.reader.resume c.context = context)
    (mode : Grammar.lexMode (top c.frames) = m) (asked : 1 < m.template)
    (scanned : context.scan m.accepts (gap ++ (piece ++ rest)) =
      ⟨after, some t, gap.length, gap.length + piece.length, read⟩)
    (changed : after.save ≠ c.context) (reduces : Reduces (LexMode.symbolOf t) k c.frames last) (few : k < c.limit)
    (acts : Grammar.actions (top last) (LexMode.symbolOf t) = [.shift state])
    (more : CourseFrom text n (⟨state, .leaf ⟨LexMode.symbolOf t, Extent.ofText gap, Extent.ofText piece, false,
      top c.frames, .template after.save true⟩⟩ :: last) after root) : Course text (n + 1) c root := by
  have reads : c.Reads text ⟨LexMode.symbolOf t, Extent.ofText gap, Extent.ofText piece,
      LexMode.symbolOf t == Symbol.finish, top c.frames, .template after.save true⟩ after := by
    intro advanced
    have looked := Situation.read_template (s := ⟨top c.frames, c.context, advanced, c.place.bytes == 0⟩) mode
      (ne_recovery mode asked) (reaches.markLength unmarked _ _ _) (Nat.ne_zero_of_lt asked)
      (by rw [resumed]; exact scanned) changed
    rw [Situation.leafOf_append] at looked
    rw [Config.place, reaches.drop]
    exact looked
  exact .step (.take reads reduces few acts (Or.inr changed)) (more after)

/-- A snapshot that was taken in a tag or around it brings its context back. -/
theorem resume_outside (reader context : Template.Context) (outside : context.nesting = []) :
    reader.resume context.save = context :=
  Template.Context.resume_save_of_le reader context (by rw [outside]; exact Nat.zero_le _)

theorem CourseFrom.template {t : Template.Token} {read : Nat} (outside : context.nesting = [])
    (reaches : Reaches text frames (gap ++ (piece ++ rest))) (unmarked : Unmarked text)
    (mode : Grammar.lexMode (top frames) = m) (asked : 1 < m.template)
    (scanned : context.scan m.accepts (gap ++ (piece ++ rest)) =
      ⟨after, some t, gap.length, gap.length + piece.length, read⟩)
    (changed : after.save ≠ context.save) (reduces : Reduces (LexMode.symbolOf t) k frames last)
    (few : k < 8 * (frames.length + 64)) (acts : Grammar.actions (top last) (LexMode.symbolOf t) = [.shift state])
    (more : CourseFrom text n (⟨state, .leaf ⟨LexMode.symbolOf t, Extent.ofText gap, Extent.ofText piece, false,
      top frames, .template after.save true⟩⟩ :: last) after root) : CourseFrom text (n + 1) frames context root := by
  intro reader
  have resumed := resume_outside reader context outside
  exact Course.template (c := ⟨frames, context.save, reader⟩) reaches unmarked resumed mode asked scanned changed reduces
    few acts more

theorem CourseFrom.code {lexeme symbol : Symbol} {reserved : Bool} (outside : context.nesting = [])
    (reaches : Reaches text frames (gap ++ (piece ++ rest))) (unmarked : Unmarked text)
    (mode : Grammar.lexMode (top frames) = m) (asked : 1 < m.template)
    (scanned : (context.scan m.accepts (gap ++ (piece ++ rest))).token = none)
    (found : Code.read? m.code (gap ++ (piece ++ rest)) = some ⟨lexeme, gap.length, gap.length + piece.length⟩)
    (named : ∀ s : Situation, s.state = top frames → (if lexeme = Symbol.word then
      s.wordSymbol piece.length (piece ++ rest) else (lexeme, false)) = (symbol, reserved))
    (written : piece ≠ []) (reduces : Reduces symbol k frames last) (few : k < 8 * (frames.length + 64))
    (acts : Grammar.actions (top last) symbol = [.shift state])
    (more : CourseFrom text n (⟨state, .leaf ⟨symbol, Extent.ofText gap, Extent.ofText piece, false,
      top frames, .code reserved⟩⟩ :: last) context root) : CourseFrom text (n + 1) frames context root := by
  intro reader
  let c : Config := ⟨frames, context.save, reader⟩
  have resumed := resume_outside reader context outside
  -- The lexeme leaves the context as it is, so it has to be one that is not empty.
  have consumed : 0 < (Extent.ofText gap + Extent.ofText piece).bytes := by
    have positive : (Extent.ofText piece).bytes ≠ 0 := fun none => written (Extent.bytes_eq_zero none)
    rw [Extent.add_def]
    dsimp only
    omega
  have reads : c.Reads text ⟨symbol, Extent.ofText gap, Extent.ofText piece, symbol == Symbol.finish, top frames,
      .code reserved⟩ (context.scan m.accepts (gap ++ (piece ++ rest))).context := by
    intro advanced
    have looked := Situation.read_code (s := ⟨top frames, context.save, advanced, c.place.bytes == 0⟩) mode
      (ne_recovery mode asked) (reaches.markLength unmarked _ _ _) (Nat.ne_zero_of_lt asked)
      (by rw [resumed]; exact scanned) found (by simpa using named _ rfl)
    rw [Situation.leafOf_append, resumed] at looked
    rw [Config.place, reaches.drop]
    exact looked
  exact .step (.take (c := c) reads reduces few acts (Or.inl consumed)) (more _)

/-- The leaf at the end of a text. -/
def endLeaf (state : StateId) : Leaf := ⟨Symbol.finish, Extent.zero, Extent.zero, true, state, .code false⟩

theorem CourseFrom.finish (outside : context.nesting = []) (reaches : Reaches text frames []) (unmarked : Unmarked text)
    (mode : Grammar.lexMode (top frames) = m) (asked : 1 < m.template) (any : m.code = .any)
    (scanned : (context.scan m.accepts []).token = none) (reduces : Reduces Symbol.finish k frames last)
    (few : k < 8 * (frames.length + 64)) (acts : Grammar.actions (top last) Symbol.finish = [.accept])
    (whole : Session.rootOf (Frame.trees last ++ [.leaf (endLeaf (top frames))]) = some root) :
    CourseFrom text 1 frames context root := by
  intro reader
  let c : Config := ⟨frames, context.save, reader⟩
  have resumed := resume_outside reader context outside
  -- Nothing is left, so the template reader finds nothing and the lexer finds the end.
  have found : Code.read? m.code [] = some ⟨Symbol.finish, 0, 0⟩ := by
    rw [any]
    rfl
  have reads : c.Reads text (endLeaf (top frames)) (context.scan m.accepts []).context := by
    intro advanced
    have looked := Situation.read_code (s := ⟨top frames, context.save, advanced, c.place.bytes == 0⟩) mode
      (ne_recovery mode asked) (reaches.markLength unmarked _ _ _) (Nat.ne_zero_of_lt asked)
      (by rw [resumed]; exact scanned) found rfl
    rw [resumed] at looked
    rw [Config.place, reaches.drop]
    exact looked
  exact .finish (c := c) reads reduces few acts whole

end Token
end Parse
end Ucode

import Ucode.Proofs.Template.Lossless
import Ucode.Proofs.Template.Nesting
import Ucode.Proofs.Template.Tags

/-!
# Closing a tag

A tag is closed wherever its closing mark stands at the start of a token of code. The braces do not matter for this, and so
a tag can be closed while a placeholder in it is open, which then stays open in the text and in the tags behind it.
-/
namespace Ucode.Template

/-- The marks that close a tag, with and without a trim mark. -/
def Block.closingMarks : Block → List (List CodePoint)
  | .expression => [[Char.toNat '}', Char.toNat '}'], [Char.toNat '-', Char.toNat '}', Char.toNat '}']]
  | .statements => [[Char.toNat '%', Char.toNat '}'], [Char.toNat '-', Char.toNat '%', Char.toNat '}']]
  | _ => []

/-- Whether a mark that closes the tag stands at the start of a text. -/
def Block.ClosesAt (block : Block) (text : List CodePoint) : Prop := ∃ mark ∈ block.closingMarks, mark <+: text

instance (block : Block) (text : List CodePoint) : Decidable (block.ClosesAt text) :=
  inferInstanceAs (Decidable (∃ mark ∈ _, _))

/-- Whether a token closes a tag with code in it. -/
def Token.Closes (t : Token) : Prop := t = .expressionClose ∨ t = .statementClose

instance (t : Token) : Decidable t.Closes := inferInstanceAs (Decidable (_ ∨ _))

theorem Token.not_closes_of_ofCode : ∀ t ∈ Token.ofCode, ¬t.Closes := by decide

theorem Block.ClosesAt.head {block : Block} {text : List CodePoint} (closes : block.ClosesAt text) :
    ∃ a rest, text = a :: rest ∧
      (a = Char.toNat '}' ∧ block = .expression ∧ rest.head? = some (Char.toNat '}') ∨
        a = Char.toNat '-' ∨ a = Char.toNat '%') := by
  obtain ⟨mark, member, behind, rfl⟩ := closes
  cases block with
  | expression =>
    simp only [closingMarks, List.mem_cons, List.not_mem_nil, or_false] at member
    rcases member with rfl | rfl
    · exact ⟨_, _, rfl, Or.inl ⟨rfl, rfl, rfl⟩⟩
    · exact ⟨_, _, rfl, Or.inr (Or.inl rfl)⟩
  | statements =>
    simp only [closingMarks, List.mem_cons, List.not_mem_nil, or_false] at member
    rcases member with rfl | rfl
    · exact ⟨_, _, rfl, Or.inr (Or.inr rfl)⟩
    · exact ⟨_, _, rfl, Or.inr (Or.inl rfl)⟩
  | none => cases member
  | comment => cases member

namespace Context

variable {accepts : Token → Bool} {c : Context} {text : List CodePoint} {s : Scan} {t : Token}

theorem reads_closes (reads : Reads c text s) (token : s.token = some t) (closes : t.Closes) :
    c.mode = .code ∧ c.block.ClosesAt text ∧ s.context = c.closeTag := by
  -- Two rules read a closing mark; no token of the others closes a tag.
  cases reads with
  | expressionClose mode block trimmed split =>
    subst split
    rw [block]
    rcases trimmed with rfl | rfl
    · exact ⟨mode, ⟨_, .head _, _, rfl⟩, rfl⟩
    · exact ⟨mode, ⟨_, .tail _ (.head _), _, rfl⟩, rfl⟩
  | statementClose mode block trimmed split =>
    subst split
    rw [block]
    rcases trimmed with rfl | rfl
    · exact ⟨mode, ⟨_, .head _, _, rfl⟩, rfl⟩
    · exact ⟨mode, ⟨_, .tail _ (.head _), _, rfl⟩, rfl⟩
  | braceClose mode =>
    cases token
    exact absurd closes (Token.not_closes_of_ofCode _ (closeBrace_ofCode mode).1)
  | literal =>
    cases token
    exact absurd closes (Token.not_closes_of_ofCode _ (token_literal_ofCode _))
  | numeral =>
    cases token
    split_ifs at closes <;> exact absurd closes (by decide)
  | _ =>
    cases token
    exact absurd closes (by decide)

/-- Where a closing mark stands in code, nothing but it is read. -/
theorem reads_of_closesAt (reads : Reads c text s) (token : s.token = some t) (mode : c.mode = .code)
    (mark : c.block.ClosesAt text) : t.Closes := by
  obtain ⟨a, rest, here, first⟩ := mark.head
  -- What else stands in code begins with neither of these code points, but for a brace that no second one follows.
  cases reads with
  | expressionClose =>
    cases token
    exact Or.inl rfl
  | statementClose =>
    cases token
    exact Or.inr rfl
  | braceClose _ split inside =>
    rw [split] at here
    obtain ⟨rfl, rfl⟩ := List.cons.inj here
    rcases first with ⟨_, block, next⟩ | other | other
    · exact absurd ⟨block, next⟩ inside
    · exact absurd other (by decide)
    · exact absurd other (by decide)
  | braceOpen _ split =>
    rw [split] at here
    obtain ⟨rfl, rfl⟩ := List.cons.inj here
    rcases first with ⟨other, _⟩ | other | other <;> exact absurd other (by decide)
  | literal _ split opens =>
    rw [split] at here
    obtain ⟨rfl, rfl⟩ := List.cons.inj here
    rcases first with ⟨rfl, _⟩ | rfl | rfl <;>
      exact absurd opens (by simp [Literal.Opens, Literal.regexMark, CodePoint.isAmong, CodePoint.nul])
  | numeral _ split digit =>
    rw [split] at here
    obtain ⟨rfl, rfl⟩ := List.cons.inj here
    rcases first with ⟨rfl, _⟩ | rfl | rfl <;> exact absurd digit (by decide)
  | _ => simp_all

/-- What stands where a token starts: the end of a statement, or what the token is read off. -/
theorem finds_at_start (finds : Finds accepts c text s) :
    ((c.start accepts).block = .statements ∧ s.token = some .semicolon ∧
      (∃ flag, s.context = { c.start accepts with semicolon := flag }) ∧
      ∀ a ∈ (text.drop s.start).head?, a = Char.toNat ';' ∨ a = Char.toNat '}' ∨ a = CodePoint.nul) ∨
    ∃ outcome, Reads (c.start accepts) (text.drop s.start) outcome ∧ s.token = outcome.token ∧
      s.context = { outcome.context with semicolon := false } := by
  -- Semicolons are found behind the blanks, and so is every other token.
  cases finds with
  | semicolon split _ block =>
    refine Or.inl ⟨block, rfl, ⟨false, rfl⟩, ?_⟩
    simp [Scan.behind, Scan.found, split]
  | @emptySemicolon gap rest split _ ends block =>
    refine Or.inl ⟨block, rfl, ⟨true, rfl⟩, ?_⟩
    intro a first
    have here : a ∈ rest.head? := by simpa [Scan.behind, Scan.found, split] using first
    exact Or.inr (ends a here)
  | @token gap rest outcome _ split _ reads =>
    refine Or.inr ⟨outcome, ?_, rfl, rfl⟩
    simpa [Scan.behind, (reads_length reads).1, split] using reads

/-- A token closes a tag exactly if it is one of code and the mark that closes the tag stands there. The nesting has no
say in it. -/
theorem finds_closes_iff (finds : Finds accepts c text s) (token : s.token = some t) :
    t.Closes ↔ (c.start accepts).mode = .code ∧ (c.start accepts).block.ClosesAt (text.drop s.start) := by
  rcases finds_at_start finds with ⟨block, semicolon, _, first⟩ | ⟨outcome, reads, same, _⟩
  · -- No closing mark of a statement tag begins like the end of a statement.
    obtain rfl := Option.some.inj (token.symm.trans semicolon)
    refine ⟨fun closes => absurd closes (by decide), ?_⟩
    rintro ⟨_, mark⟩
    obtain ⟨a, rest, here, ⟨_, other, _⟩ | rfl | rfl⟩ := mark.head
    · simp [block] at other
    · exact absurd (first _ (by rw [here]; rfl)) (by decide)
    · exact absurd (first _ (by rw [here]; rfl)) (by decide)
  · rw [token] at same
    constructor
    · intro closes
      obtain ⟨mode, mark, _⟩ := reads_closes reads same.symm closes
      exact ⟨mode, mark⟩
    · rintro ⟨mode, mark⟩
      exact reads_of_closesAt reads same.symm mode mark

theorem finds_closes (finds : Finds accepts c text s) (token : s.token = some t) (closes : t.Closes) :
    s.context.mode = .text ∧ s.context.nesting = c.nesting := by
  rcases finds_at_start finds with ⟨_, semicolon, _⟩ | ⟨outcome, reads, same, left⟩
  · obtain rfl := Option.some.inj (token.symm.trans semicolon)
    exact absurd closes (by decide)
  · obtain ⟨_, _, text⟩ := reads_closes reads (same.symm.trans token) closes
    rw [left, text]
    exact ⟨rfl, start_nesting c accepts⟩

/-- Placeholders are open in tags only. -/
def Contained (c : Context) : Prop := c.nesting ≠ [] → c.mode.InTag

theorem Contained.nesting_eq_nil (contained : c.Contained) (outside : ¬c.mode.InTag) : c.nesting = [] := by
  by_contra opened
  exact outside (contained opened)

theorem contained_of_nil (none : c.nesting = []) : c.Contained := fun opened => absurd none opened

theorem Contained.start (contained : c.Contained) (accepts : Token → Bool) : (c.start accepts).Contained := by
  unfold Context.start
  split_ifs with initial
  · exact contained_of_nil (contained.nesting_eq_nil (by simp [initial, Mode.InTag]))
  · exact fun _ => Or.inl rfl
  · exact contained

/-- What is read closes the tag, or stands outside all tags and leaves the nesting as it is, or goes on in a tag. -/
theorem reads_tag (reads : Reads c text s) (token : s.token = some t) :
    t.Closes ∨ (¬c.mode.InTag ∧ s.context.nesting = c.nesting) ∨
      s.context.mode.InTag ∧ (c.mode.InTag → s.context.block = c.block) := by
  -- One case for each rule: two close a tag, those outside of tags do not count braces, the others stay in the tag.
  cases reads with
  | expressionClose =>
    cases token
    exact Or.inl (Or.inl rfl)
  | statementClose =>
    cases token
    exact Or.inl (Or.inr rfl)
  | lastText mode => exact Or.inr (Or.inl ⟨by simp [mode, Mode.InTag], rfl⟩)
  | textBeforeComment mode => exact Or.inr (Or.inl ⟨by simp [mode, Mode.InTag], rfl⟩)
  | textBeforeTag mode => exact Or.inr (Or.inl ⟨by simp [mode, Mode.InTag], rfl⟩)
  | comment mode => exact Or.inr (Or.inl ⟨by simp [mode, Mode.InTag], rfl⟩)
  | expressionOpen mode => exact Or.inr (Or.inr ⟨Or.inl rfl, fun inTag => by simp [mode, Mode.InTag] at inTag⟩)
  | statementOpen mode => exact Or.inr (Or.inr ⟨Or.inl rfl, fun inTag => by simp [mode, Mode.InTag] at inTag⟩)
  | braceClose mode =>
    obtain ⟨_, inTag, block⟩ := closeBrace_ofCode mode
    exact Or.inr (Or.inr ⟨inTag, fun _ => block⟩)
  | braceOpen mode =>
    obtain ⟨same, block, _⟩ := c.openBrace_same
    exact Or.inr (Or.inr ⟨Or.inl (same.trans mode), fun _ => block⟩)
  | literal mode =>
    refine Or.inr (Or.inr ?_)
    dsimp only
    split_ifs
    · exact ⟨Or.inr (Or.inl rfl), fun _ => rfl⟩
    · exact ⟨Or.inl mode, fun _ => rfl⟩
  | numeral mode => exact Or.inr (Or.inr ⟨Or.inl mode, fun _ => rfl⟩)
  | placeholderOpen => exact Or.inr (Or.inr ⟨Or.inl rfl, fun _ => rfl⟩)
  | template =>
    refine Or.inr (Or.inr ⟨?_, fun _ => rfl⟩)
    dsimp only
    split_ifs
    · exact Or.inr (Or.inl rfl)
    · exact Or.inl rfl

theorem Contained.reads (contained : c.Contained) (reads : Reads c text s) (token : s.token = some t)
    (closed : t.Closes → c.nesting = []) : s.context.Contained := by
  rcases reads_tag reads token with closes | ⟨outside, same⟩ | ⟨inTag, _⟩
  · obtain ⟨_, _, text⟩ := reads_closes reads token closes
    rw [text]
    exact contained_of_nil (closed closes)
  · exact contained_of_nil (same.trans (contained.nesting_eq_nil outside))
  · exact fun _ => inTag

theorem Contained.finds (contained : c.Contained) (finds : Finds accepts c text s) (token : s.token = some t)
    (closed : t.Closes → c.nesting = []) : s.context.Contained := by
  have begun := contained.start accepts
  rcases finds_at_start finds with ⟨_, _, ⟨flag, left⟩, _⟩ | ⟨outcome, reads, same, left⟩
  · rw [left]
    exact begun
  · rw [left]
    exact begun.reads reads (same.symm.trans token) fun closes => (start_nesting c accepts).trans (closed closes)

theorem Coherent.start_of_nesting (coherent : c.Coherent) (opened : c.nesting ≠ []) : c.start accepts = c := by
  rcases coherent with rfl | started
  · exact absurd rfl opened
  · exact started.start accepts

end Context

namespace Reader

variable (r : Reader)

/-- Every piece of a run is found by one of its calls, behind a run of those before it. -/
theorem next?_of_mem (calls : List (Token → Bool)) (p : Piece) (member : p ∈ r.pieces calls) :
    ∃ first accepts, (r.last first).next? accepts = some p := by
  obtain ⟨front, back, split⟩ := List.append_of_mem member
  obtain ⟨first, later, _, _, rest⟩ := r.pieces_eq_append calls front (p :: back) split
  obtain ⟨accepts, _, found, _⟩ := pieces_eq_cons _ later p back rest
  exact ⟨first, accepts, found⟩

theorem next?_closes_iff (accepts : Token → Bool) (p : Piece) (found : r.next? accepts = some p) :
    p.token.Closes ↔ (p.before.start accepts).mode = .code ∧
      (p.before.start accepts).block.ClosesAt (r.text.drop p.start) := by
  obtain ⟨s, t, finds, token, rfl⟩ := r.next?_finds accepts p found
  have closes := Context.finds_closes_iff finds token
  rwa [rest, List.drop_drop] at closes

/-- In a placeholder the first call was made before, so that the context itself tells what closes its tag. -/
theorem closes_iff_of_mem (calls : List (Token → Bool)) (coherent : r.context.Coherent) (p : Piece)
    (member : p ∈ r.pieces calls) (opened : p.before.nesting ≠ []) :
    p.token.Closes ↔ p.before.mode = .code ∧ p.before.block.ClosesAt (r.text.drop p.start) := by
  obtain ⟨first, accepts, found⟩ := r.next?_of_mem calls p member
  have before : p.before.Coherent := by
    obtain ⟨s, t, _, _, rfl⟩ := (r.last first).next?_finds accepts p found
    exact r.last_coherent first coherent
  have closes := (r.last first).next?_closes_iff accepts p found
  rwa [before.start_of_nesting opened, r.last_text first] at closes

theorem closes_of_mem (calls : List (Token → Bool)) (p : Piece) (member : p ∈ r.pieces calls)
    (closes : p.token.Closes) : p.after.mode = .text ∧ p.after.nesting = p.before.nesting := by
  obtain ⟨first, accepts, found⟩ := r.next?_of_mem calls p member
  obtain ⟨s, t, finds, token, rfl⟩ := (r.last first).next?_finds accepts p found
  exact Context.finds_closes finds token closes

/-- From a reader whose placeholders are open in tags only, they stay so as long as no tag is closed before them. -/
theorem pieces_contained (calls : List (Token → Bool)) (contained : r.context.Contained)
    (closed : ∀ p ∈ r.pieces calls, p.token.Closes → p.before.nesting = []) :
    ∀ p ∈ r.pieces calls, p.after.Contained := by
  refine run_induction r calls (P := fun r pieces _ => r.context.Contained →
    (∀ p ∈ pieces, p.token.Closes → p.before.nesting = []) → ∀ p ∈ pieces, p.after.Contained) ?_ ?_ contained closed
  · intro r _ _ p member
    cases member
  · intro r accepts p pieces last found ih contained closed
    obtain ⟨here, others⟩ := List.forall_mem_cons.mp closed
    obtain ⟨s, t, finds, token, rfl⟩ := r.next?_finds accepts p found
    have after : s.context.Contained := contained.finds finds token here
    exact List.forall_mem_cons.mpr ⟨after, ih after others⟩

/-- In a run from the start three things come to the same: no tag is closed while a placeholder is open; no placeholder is
open in text; and where code goes on in a placeholder, no token starts with a mark that closes the tag. -/
theorem closes_empty_iff (text : List CodePoint) (position : Nat) (calls : List (Token → Bool)) :
    let pieces := (Reader.mk text position .fresh).pieces calls
    ((∀ p ∈ pieces, p.token.Closes → p.before.nesting = []) ↔
      ∀ p ∈ pieces, p.after.mode = .text → p.after.nesting = []) ∧
    ((∀ p ∈ pieces, p.token.Closes → p.before.nesting = []) ↔
      ∀ p ∈ pieces, p.before.mode = .code → p.before.nesting ≠ [] → ¬p.before.block.ClosesAt (text.drop p.start)) := by
  intro pieces
  let reader := Reader.mk text position .fresh
  have fresh : reader.context.Contained := Context.contained_of_nil rfl
  refine ⟨⟨?_, ?_⟩, ?_, ?_⟩
  · intro closed p member mode
    have contained := reader.pieces_contained calls fresh closed p member
    exact contained.nesting_eq_nil (by simp [mode, Mode.InTag])
  · intro empty p member closes
    obtain ⟨mode, same⟩ := reader.closes_of_mem calls p member closes
    rw [← same]
    exact empty p member mode
  · intro closed p member mode opened mark
    have closes := (reader.closes_iff_of_mem calls (Or.inl rfl) p member opened).mpr ⟨mode, mark⟩
    exact opened (closed p member closes)
  · intro clear p member closes
    by_contra opened
    obtain ⟨mode, mark⟩ := (reader.closes_iff_of_mem calls (Or.inl rfl) p member opened).mp closes
    exact clear p member mode opened mark

/-- An object without entries at the end of a placeholder: its brace and the one of the placeholder are taken for the mark
that closes the tag, and the placeholder is still open in the text behind it. -/
theorem closes_in_placeholder :
    let text := ['{', '{', ' ', '\x60', '$', '{', '{', '}', '}', '\x60', ' ', '}', '}'].map Char.toNat
    let pieces := (Reader.mk text 0 .fresh).pieces (List.replicate 6 fun _ => true)
    (∃ p ∈ pieces, p.token = .expressionClose ∧ p.before.nesting = [1] ∧ p.after.nesting = [1]) ∧
      ¬∀ p ∈ pieces, p.token.Closes → p.before.nesting = [] := by
  decide

end Reader
end Ucode.Template

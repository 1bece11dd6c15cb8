import Ucode.Proofs.Template.Run
import Ucode.Proofs.Template.Snapshot

/-!
# Coherent contexts

Not every mode goes with every block: text is outside all tags, a comment tag is open while a comment is read, and code, as
well as the template literals in it, is inside an expression or a statement tag. A scan keeps this, also when it
finds nothing, so it holds of every context that can be reached.
-/
namespace Ucode.Template

/-- Code, and what belongs to a template literal in it. -/
def Mode.InTag (mode : Mode) : Prop := mode = .code ∨ mode = .placeholder ∨ mode = .template

/-- The blocks that can be open in a mode. -/
def Mode.Admits (block : Block) : Mode → Prop
  | initial | text | expressionTag | statementTag => block = .none
  | comment => block = .comment
  | code | placeholder | template => block = .expression ∨ block = .statements
  | finished => True

namespace Context

/-- A context in which reading has begun, and whose mode goes with its block. -/
structure Started (c : Context) : Prop where
  begun : c.mode ≠ .initial
  admits : c.mode.Admits c.block

/-- A context that is fresh, or has started. -/
def Coherent (c : Context) : Prop := c = fresh ∨ c.Started

variable {c : Context} {accepts : Token → Bool} {text : List CodePoint} {s : Scan}

theorem start_of_begun (begun : c.mode ≠ .initial) (accepts : Token → Bool) : c.start accepts = c := by
  unfold start
  rw [if_neg begun]

/-- Where no semicolon is looked for, a scan reads what the mode leads to expect. -/
theorem scan_eq_scanAny (begun : c.mode ≠ .initial) (unasked : ¬(c.block = .statements ∧ accepts .semicolon = true)) :
    c.scan accepts text = (c.scanAny text).accept accepts := by
  have same : c.start accepts = c := start_of_begun begun accepts
  rw [Context.scan, same]
  exact if_neg unasked

theorem accept_mode (accepts : Token → Bool) (s : Scan) :
    (s.accept accepts).context.mode = s.context.mode ∧ (s.accept accepts).read = s.read := by
  unfold Scan.accept
  split
  · split_ifs <;> exact ⟨rfl, rfl⟩
  · exact ⟨rfl, rfl⟩

theorem Started.start (started : c.Started) (accepts : Token → Bool) : c.start accepts = c :=
  start_of_begun started.begun accepts

/-- The first call decides how reading starts. -/
theorem Coherent.start (coherent : c.Coherent) (accepts : Token → Bool) : (c.start accepts).Started := by
  rcases coherent with rfl | started
  · unfold Context.start fresh
    rw [if_pos rfl]
    split_ifs
    -- Either raw text is accepted, or the whole text is code as if a statement tag were open.
    · exact ⟨by decide, rfl⟩
    · exact ⟨by decide, Or.inr rfl⟩
  · rwa [started.start accepts]

theorem Started.semicolon (started : c.Started) (flag : Bool) : Started { c with semicolon := flag } :=
  ⟨started.begun, started.admits⟩

theorem Started.outside (started : c.Started) (mode : c.mode = .text) : c.block = .none := by
  have admits := started.admits
  rwa [mode] at admits

theorem Started.inTag (started : c.Started) (mode : c.mode.InTag) :
    c.block = .expression ∨ c.block = .statements := by
  have admits := started.admits
  rcases mode with mode | mode | mode <;> rwa [mode] at admits

theorem Started.closeBrace (started : c.Started) (mode : c.mode = .code) : c.closeBrace.2.Started := by
  unfold Context.closeBrace
  split
  · exact started
  · exact ⟨by simp, started.inTag (Or.inl mode)⟩
  · exact ⟨started.begun, started.admits⟩

theorem openBrace_same (c : Context) :
    c.openBrace.mode = c.mode ∧ c.openBrace.block = c.block ∧ c.openBrace.semicolon = c.semicolon := by
  unfold openBrace
  split <;> exact ⟨rfl, rfl, rfl⟩

theorem Started.openBrace (started : c.Started) : c.openBrace.Started := by
  obtain ⟨mode, block, _⟩ := c.openBrace_same
  exact ⟨by rw [mode]; exact started.begun, by rw [mode, block]; exact started.admits⟩

theorem Started.reads (started : c.Started) (reads : Reads c text s) : s.context.Started := by
  -- One case for each rule: the mode that it leads to goes with the block that it leaves or opens.
  cases reads with
  | lastText => exact ⟨by simp [Scan.found], trivial⟩
  | textBeforeComment => exact ⟨by simp, rfl⟩
  | textBeforeTag mode _ kind =>
    have outside := started.outside mode
    rcases kind with rfl | rfl
    · exact ⟨by simp, outside⟩
    · exact ⟨by simp, outside⟩
  | comment => exact ⟨by simp [Scan.found, closeTag], rfl⟩
  | expressionOpen => exact ⟨by simp [Scan.found, openTag], Or.inl rfl⟩
  | statementOpen => exact ⟨by simp [Scan.found, openTag], Or.inr rfl⟩
  | expressionClose => exact ⟨by simp [Scan.found, closeTag], rfl⟩
  | statementClose => exact ⟨by simp [Scan.found, closeTag], rfl⟩
  | braceClose mode => exact started.closeBrace mode
  | braceOpen => exact started.openBrace
  | literal mode =>
    dsimp only
    split_ifs
    · exact ⟨by simp, started.inTag (Or.inl mode)⟩
    · exact started
  | numeral => exact started
  | placeholderOpen mode => exact ⟨by simp [Scan.found, openPlaceholder], started.inTag (Or.inr (Or.inl mode))⟩
  | template mode =>
    have inside := started.inTag (Or.inr (Or.inr mode))
    dsimp only
    split_ifs
    · exact ⟨by simp, inside⟩
    · exact ⟨by simp, inside⟩

theorem Started.outcome (started : c.Started) (outcome : Outcome c text s) : s.context.Started := by
  cases outcome with
  | read reads => exact started.reads reads
  | stay => exact started
  | finish => exact ⟨by simp [Scan.nothing], trivial⟩
  | leave n mode => exact ⟨by simp [Scan.nothing], started.inTag (Or.inr (Or.inr mode))⟩

theorem Coherent.finds (coherent : c.Coherent) (finds : Finds accepts c text s) : s.context.Started := by
  have started := coherent.start accepts
  cases finds with
  | semicolon => exact started.semicolon false
  | emptySemicolon => exact started.semicolon true
  | token _ _ reads => exact (started.reads reads).semicolon false

theorem Coherent.scan (coherent : c.Coherent) : (c.scan accepts text).context.Started := by
  rcases scan_cases accepts c text with finds | ⟨_, same | ⟨rest, outcome, came, same⟩⟩
  · exact coherent.finds finds
  -- What a failed scan has changed stays here, as nobody undoes it.
  · rw [same]
    exact (coherent.start accepts).semicolon false
  · rw [same]
    exact (coherent.start accepts).outcome came

/-- Every context that can be reached is coherent. -/
theorem Reachable.coherent (reached : Reachable c) : c.Coherent := by
  induction reached with
  | fresh => exact Or.inl rfl
  | scan accepts text _ ih => exact Or.inr ih.scan
  | @restore c saved _ _ ih earlier =>
    rcases resume_save c saved with same | same
    · rwa [same]
    · rwa [same]

end Context
theorem Reader.last_coherent (r : Reader) (calls : List (Token → Bool)) (coherent : r.context.Coherent) :
    (r.last calls).context.Coherent := by
  refine Reader.run_induction r calls (P := fun r _ last => r.context.Coherent → last.context.Coherent) ?_ ?_ coherent
  · intro r coherent
    exact coherent
  · intro r accepts p pieces last found ih coherent
    obtain ⟨s, t, finds, _, rfl⟩ := r.next?_finds accepts p found
    exact ih (Or.inr (coherent.finds finds))

end Ucode.Template

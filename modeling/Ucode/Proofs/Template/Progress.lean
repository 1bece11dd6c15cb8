import Ucode.Proofs.Template.Coherence
import Ucode.Proofs.Template.Lossless

/-!
# Reading goes on

Some tokens can be empty: text before a tag, the piece of a template literal before a placeholder, a semicolon that is left
out. But an empty token settles the context where it stands, so that the next token there is not empty, and a text of
so many code points has at most twice as many tokens and one more.
-/
namespace Ucode.Template

namespace Context

/-- A context in which the token that stands next cannot be empty: text was just read up to a tag or the end, a template
literal up to a placeholder, or a semicolon was left out. -/
inductive Settled (c : Context) (text : List CodePoint) : Prop where
  | behindText (mode : c.mode = .comment ∨ c.mode = .expressionTag ∨ c.mode = .statementTag ∨ c.mode = .finished)
      (block : c.block ≠ .statements)
  | beforePlaceholder {rest : List CodePoint} (mode : c.mode = .placeholder)
      (split : text = Char.toNat '$' :: Char.toNat '{' :: rest)
  | behindSemicolon (flag : c.semicolon = true) (block : c.block = .statements) (ends : EndsStatement text)

variable {c : Context} {accepts : Token → Bool} {text : List CodePoint} {s : Scan}

/-- An empty end is one before a placeholder that stands at once. -/
theorem ends_empty {delimiter : CodePoint} {e : Literal.End} (ends : Literal.Ends delimiter text e) (empty : e.stop = 0) :
    e.placeholder = true ∧ ∃ rest, text = Char.toNat '$' :: Char.toNat '{' :: rest := by
  cases ends with
  | delimiter split => cases empty
  | @placeholder front rest _ split =>
    obtain rfl := List.eq_nil_of_length_eq_zero empty
    exact ⟨rfl, rest, split⟩

/-- Only text and the rest of a template literal can be empty, and they leave a settled context. -/
theorem reads_empty (started : c.Started) (reads : Reads c text s) (empty : s.stop = 0) :
    (c.mode = .text ∨ c.mode = .template ∧ ∃ rest, text = Char.toNat '$' :: Char.toNat '{' :: rest) ∧
      Settled { s.context with semicolon := false } text := by
  -- Every rule but those for text and for the rest of a template literal reads at least one code point.
  cases reads with
  | lastText mode =>
    refine ⟨Or.inl mode, .behindText (by simp [Scan.found]) ?_⟩
    simp [Scan.found, started.outside mode]
  | textBeforeComment mode => exact ⟨Or.inl mode, .behindText (by simp) (by simp)⟩
  | textBeforeTag mode _ kind =>
    refine ⟨Or.inl mode, .behindText ?_ ?_⟩
    · rcases kind with rfl | rfl <;> simp
    · simp [started.outside mode]
  | comment _ raw =>
    have marked := (Markup.rawComment_length raw).1
    dsimp only [Scan.found] at empty
    omega
  | expressionOpen =>
    dsimp only [Scan.found] at empty
    split_ifs at empty
  | statementOpen =>
    dsimp only [Scan.found] at empty
    omega
  | expressionClose => cases empty
  | statementClose => cases empty
  | braceClose => cases empty
  | braceOpen => cases empty
  | literal =>
    dsimp only at empty
    omega
  | numeral => cases empty
  | placeholderOpen => cases empty
  | @template e mode ends =>
    obtain ⟨placeholder, rest, split⟩ := ends_empty (Literal.endFrom_ends _ 0 text e ends) empty
    refine ⟨Or.inr ⟨mode, rest, split⟩, .beforePlaceholder ?_ split⟩
    simp [placeholder]

theorem Coherent.settled (coherent : c.Coherent) (finds : Finds accepts c text s) (empty : s.stop = 0) :
    Settled s.context text := by
  -- An empty token has no blanks before it, so what stands behind it is the whole text.
  cases finds with
  | semicolon =>
    dsimp only [Scan.behind, Scan.found] at empty
    omega
  | @emptySemicolon gap rest split _ ends block =>
    obtain rfl : gap = [] := List.eq_nil_of_length_eq_zero (by simpa [Scan.behind, Scan.found] using empty)
    subst split
    exact .behindSemicolon rfl block ends
  | @token gap rest s t split _ reads =>
    dsimp only [Scan.behind] at empty
    obtain rfl : gap = [] := List.eq_nil_of_length_eq_zero (by omega)
    subst split
    exact (reads_empty (coherent.start accepts) reads (by simpa using empty)).2

theorem Settled.advances (settled : Settled c text) (started : c.Started) (finds : Finds accepts c text s) :
    0 < s.stop := by
  rw [Nat.pos_iff_ne_zero]
  intro empty
  have same := started.start accepts
  cases finds with
  | semicolon =>
    dsimp only [Scan.behind, Scan.found] at empty
    omega
  | @emptySemicolon gap rest split _ ends block _ first =>
    obtain rfl : gap = [] := List.eq_nil_of_length_eq_zero (by simpa [Scan.behind, Scan.found] using empty)
    rw [same] at block first
    -- Semicolons are left out among statements only, before an end that a placeholder is not, and once.
    cases settled with
    | behindText _ other => exact other block
    | beforePlaceholder _ mark =>
      subst split
      simp [EndsStatement, mark, CodePoint.nul] at ends
    | behindSemicolon flag => simp [flag] at first
  | @token gap rest s t split _ reads =>
    dsimp only [Scan.behind] at empty
    obtain rfl : gap = [] := List.eq_nil_of_length_eq_zero (by omega)
    subst split
    rw [same] at reads
    have kind := (reads_empty started reads (by simpa using empty)).1
    cases settled with
    | behindText mode => rcases mode with mode | mode | mode | mode <;> simp [mode] at kind
    | beforePlaceholder mode => simp [mode] at kind
    | behindSemicolon _ block ends =>
      -- Empty text is read outside tags, and a placeholder does not end a statement.
      rcases kind with mode | ⟨_, others, mark⟩
      · simp [started.outside mode] at block
      · subst mark
        simp [EndsStatement, CodePoint.nul] at ends

end Context

namespace Reader

theorem behind_rest (r : Reader) (accepts : Token → Bool) (s : Scan) (t : Token) :
    (r.behind (r.piece accepts s t)).rest = r.rest.drop s.stop := by
  simp only [rest, behind, piece, List.drop_drop]

/-- A run from a coherent context has at most two pieces for each code point that is left and one more, and not even that one
when it starts from a settled context. -/
theorem pieces_length_of_coherent (r : Reader) (calls : List (Token → Bool)) (coherent : r.context.Coherent) :
    (r.pieces calls).length ≤ 2 * r.rest.length + 1 ∧
      (r.context.Started → r.context.Settled r.rest → (r.pieces calls).length ≤ 2 * r.rest.length) := by
  -- Settled contexts are part of what is carried through the run: they pay for the one empty token before them.
  refine run_induction r calls (P := fun r pieces _ => r.context.Coherent →
    pieces.length ≤ 2 * r.rest.length + 1 ∧
      (r.context.Started → r.context.Settled r.rest → pieces.length ≤ 2 * r.rest.length)) ?_ ?_ coherent
  · intro r _
    exact ⟨Nat.zero_le _, fun _ _ => Nat.zero_le _⟩
  · intro r accepts p pieces last found ih coherent
    obtain ⟨s, t, finds, token, rfl⟩ := r.next?_finds accepts p found
    have started : s.context.Started := coherent.finds finds
    obtain ⟨_, _, stop, read, _⟩ := Context.finds_length finds token
    obtain ⟨others, settledOthers⟩ := ih (Or.inr started)
    rw [behind_rest] at others settledOthers
    rw [List.length_drop] at others settledOthers
    rw [List.length_cons]
    by_cases empty : s.stop = 0
    · -- An empty token leaves the text as it is, but no other empty token can follow.
      rw [empty, List.drop_zero] at settledOthers
      have fewer := settledOthers started (coherent.settled finds empty)
      refine ⟨by omega, ?_⟩
      intro before settled
      have advances := settled.advances before finds
      omega
    · refine ⟨by omega, ?_⟩
      intro _ _
      omega

/-- From every context that can be reached and every place in a text, however the calls go on, they find at most two tokens
for each code point that is left and one more. -/
theorem pieces_length_le (r : Reader) (calls : List (Token → Bool)) (reached : r.context.Reachable) :
    (r.pieces calls).length ≤ 2 * (r.text.length - r.position) + 1 := by
  have bound := (pieces_length_of_coherent r calls reached.coherent).1
  rwa [rest, List.length_drop] at bound

/-- A single closing brace has three tokens: a semicolon can be left out before it, and another at the end. -/
theorem pieces_length_brace :
    let reader := Reader.mk [Char.toNat '}'] 0 .fresh
    let calls : List (Token → Bool) := [(· = .semicolon), (· = .braceClose), (· = .semicolon)]
    reader.context.Reachable ∧ (reader.pieces calls).map (·.token) = [.semicolon, .braceClose, .semicolon] ∧
      (reader.pieces calls).length ≤ 2 * (1 - 0) + 1 := by
  intro reader calls
  refine ⟨.fresh, by decide, ?_⟩
  exact pieces_length_le reader calls .fresh

end Reader
end Ucode.Template

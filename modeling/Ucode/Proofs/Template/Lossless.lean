import Ucode.Proofs.Template.Run

/-!
# Nothing of a text is lost

The pieces of a run cover what the reader has passed: each starts behind blanks where the one before it ended, so that gaps
and tokens put together in their order are the text again. No piece reaches behind the text.
-/
namespace Ucode.Template

namespace Piece

/-- The text between the place of the scan and the token. -/
def gap (p : Piece) (text : List CodePoint) : List CodePoint := text.extract p.position p.start

/-- The text of the token. -/
def span (p : Piece) (text : List CodePoint) : List CodePoint := text.extract p.start p.stop

/-- A piece that its call accepts, behind nothing but blanks, inside a text. -/
structure Within (p : Piece) (text : List CodePoint) : Prop where
  accepted : p.accepts p.token = true
  position_le_start : p.position ≤ p.start
  start_le_stop : p.start ≤ p.stop
  stop_le_read : p.stop ≤ p.read
  read_le_length : p.read ≤ text.length
  blank : ∀ x ∈ p.gap text, CodePoint.isBlank x = true

end Piece

theorem extract_append (text : List CodePoint) {i j k : Nat} (low : i ≤ j) (high : j ≤ k) :
    text.extract i j ++ text.extract j k = text.extract i k := by
  have whole : k - i = (j - i) + (k - j) := by omega
  have middle : i + (j - i) = j := by omega
  rw [List.extract_eq_take_drop, List.extract_eq_take_drop, List.extract_eq_take_drop, whole, List.take_add,
    List.drop_drop, middle]

/-- The pieces that cover a text between two places: each lies within the text, each scan was placed where the piece
before it ended, and the gaps and tokens in their order are that part of the text. -/
structure Covers (text : List CodePoint) (first last : Nat) (pieces : List Piece) : Prop where
  first_le_last : first ≤ last
  within : ∀ p ∈ pieces, p.Within text
  contiguous : pieces.map (·.position) ++ [last] = first :: pieces.map (·.stop)
  lossless : text.extract first last = pieces.flatMap fun p => p.gap text ++ p.span text

namespace Covers

variable {text : List CodePoint} {last : Nat} {p : Piece} {pieces : List Piece}

theorem nil (text : List CodePoint) (place : Nat) : Covers text place place [] where
  first_le_last := Nat.le_refl place
  within := by simp
  contiguous := rfl
  lossless := by simp

theorem cons (within : p.Within text) (covers : Covers text p.stop last pieces) :
    Covers text p.position last (p :: pieces) where
  first_le_last := by
    have start := within.position_le_start
    have stop := within.start_le_stop
    have others := covers.first_le_last
    omega
  within := List.forall_mem_cons.mpr ⟨within, covers.within⟩
  contiguous := by
    rw [List.map_cons, List.cons_append, covers.contiguous, List.map_cons]
  lossless := by
    -- The text of the piece is put before that of the others, which starts where the piece ends.
    have gap := within.position_le_start
    have span := within.start_le_stop
    rw [List.flatMap_cons, ← covers.lossless]
    calc text.extract p.position last
        = text.extract p.position p.stop ++ text.extract p.stop last :=
          (extract_append text (Nat.le_trans gap span) covers.first_le_last).symm
      _ = p.gap text ++ p.span text ++ text.extract p.stop last := by
          rw [Piece.gap, Piece.span, extract_append text gap span]

end Covers

namespace Context

variable {accepts : Token → Bool} {c : Context} {text : List CodePoint} {s : Scan}

/-- A token starts where it is read, and neither its end nor what was read to find it lies behind the text. -/
theorem reads_length (reads : Reads c text s) : s.start = 0 ∧ s.stop ≤ s.read ∧ s.read ≤ text.length := by
  -- One case for each rule: its text is long enough to hold what the rule has read.
  cases reads with
  | @lastText n _ raw =>
    have bound := Markup.rawText_length text
    rw [raw] at bound
    exact ⟨rfl, Nat.le_refl n, bound⟩
  | @textBeforeComment n _ raw => exact ⟨rfl, Nat.le_add_right n 2, Markup.rawText_tag_length raw⟩
  | @textBeforeTag n _ _ raw => exact ⟨rfl, Nat.le_add_right n 2, Markup.rawText_tag_length raw⟩
  | @comment n _ raw => exact ⟨rfl, Nat.le_refl n, (Markup.rawComment_length raw).2⟩
  | @expressionOpen rest _ split =>
    refine ⟨rfl, Nat.le_refl _, ?_⟩
    subst split
    cases rest with
    | nil => simp [Scan.found]
    | cons d others =>
      dsimp only [Scan.found]
      simp only [List.length_cons]
      split_ifs <;> omega
  | @statementOpen rest _ split =>
    refine ⟨rfl, Nat.le_refl _, ?_⟩
    subst split
    dsimp only [Scan.found]
    simp only [List.length_cons]
    omega
  | @expressionClose trim rest _ _ _ split =>
    refine ⟨rfl, Nat.le_refl _, ?_⟩
    subst split
    dsimp only [Scan.found]
    rw [List.length_append, List.length_cons, List.length_cons]
    omega
  | @statementClose trim rest _ _ _ split =>
    refine ⟨rfl, Nat.le_refl _, ?_⟩
    subst split
    dsimp only [Scan.found]
    rw [List.length_append, List.length_cons, List.length_cons]
    omega
  | braceClose _ split =>
    subst split
    exact ⟨rfl, Nat.le_refl 1, Nat.succ_le_succ (Nat.zero_le _)⟩
  | braceOpen _ split =>
    subst split
    exact ⟨rfl, Nat.le_refl 1, Nat.succ_le_succ (Nat.zero_le _)⟩
  | @literal delimiter rest e _ split _ ends =>
    have bounds := (Literal.endFrom_ends delimiter 0 rest e ends).length
    subst split
    rw [List.length_cons]
    refine ⟨rfl, ?_, ?_⟩ <;> dsimp only <;> omega
  | @numeral first rest _ split =>
    have bounds := Numeral.ofDigits_length first rest
    subst split
    rw [List.length_cons]
    refine ⟨rfl, ?_, ?_⟩ <;> dsimp only <;> omega
  | placeholderOpen _ split =>
    subst split
    exact ⟨rfl, Nat.le_refl 2, Nat.succ_le_succ (Nat.succ_le_succ (Nat.zero_le _))⟩
  | @template e _ ends =>
    have bounds := (Literal.endFrom_ends Literal.templateMark 0 text e ends).length
    exact ⟨rfl, bounds.1, bounds.2⟩

theorem behind_length {gap rest : List CodePoint} (split : text = gap ++ rest)
    (blank : ∀ x ∈ gap, CodePoint.isBlank x = true)
    (bounds : s.start = 0 ∧ s.stop ≤ s.read ∧ s.read ≤ rest.length) :
    (s.behind gap.length).start ≤ (s.behind gap.length).stop ∧ (s.behind gap.length).stop ≤ (s.behind gap.length).read ∧
      (s.behind gap.length).read ≤ text.length ∧
      ∀ x ∈ text.take (s.behind gap.length).start, CodePoint.isBlank x = true := by
  obtain ⟨start, stop, read⟩ := bounds
  have taken : text.take (s.behind gap.length).start = gap := by
    rw [Scan.behind, start, Nat.zero_add, split, List.take_left]
  have whole : text.length = gap.length + rest.length := by rw [split, List.length_append]
  rw [taken]
  refine ⟨?_, ?_, ?_, blank⟩ <;> dsimp only [Scan.behind] <;> omega

theorem finds_length {t : Token} (finds : Finds accepts c text s) (token : s.token = some t) :
    accepts t = true ∧ s.start ≤ s.stop ∧ s.stop ≤ s.read ∧ s.read ≤ text.length ∧
      ∀ x ∈ text.take s.start, CodePoint.isBlank x = true := by
  cases finds with
  | semicolon split blank _ accepted =>
    cases token
    exact ⟨accepted, behind_length split blank ⟨rfl, Nat.le_refl 1, Nat.succ_le_succ (Nat.zero_le _)⟩⟩
  | emptySemicolon split blank _ _ accepted =>
    cases token
    exact ⟨accepted, behind_length split blank ⟨rfl, Nat.le_refl 0, Nat.zero_le _⟩⟩
  | token split blank reads found accepted =>
    obtain rfl := Option.some.inj (token.symm.trans found)
    have bounds := reads_length reads
    exact ⟨accepted, behind_length split blank bounds⟩

end Context

namespace Reader

variable (r : Reader)

end Reader
end Ucode.Template

import Ucode.Proofs.Template.Progress

/-!
# Semicolons

A statement ends with a semicolon, which can be left out before a closing brace and at the end of the text. A semicolon that is
left out is an empty token, but there is never more than one at a place. Looking for semicolons where there is none changes
nothing but where the rest of a template literal starts.
-/
namespace Ucode.Template

/-- A piece for a semicolon that was left out. -/
def Piece.LeavesOut (p : Piece) : Prop := p.token = .semicolon ∧ p.start = p.stop

namespace Context

variable {c : Context} {accepts : Token → Bool} {text : List CodePoint} {s : Scan}

/-- A context behind a semicolon that was left out. -/
structure BehindLeftOut (c : Context) (text : List CodePoint) : Prop where
  flag : c.semicolon = true
  block : c.block = .statements
  ends : EndsStatement text

theorem BehindLeftOut.settled (behind : BehindLeftOut c text) : Settled c text :=
  .behindSemicolon behind.flag behind.block behind.ends

theorem Reads.ne_semicolon (reads : Reads c text s) : s.token ≠ some .semicolon := by
  cases reads with
  | braceClose =>
    dsimp only [Scan.found]
    unfold closeBrace
    split <;> simp
  | @literal delimiter =>
    dsimp only
    unfold Literal.token
    split_ifs <;> simp
  | numeral =>
    dsimp only
    split_ifs <;> simp
  | _ => simp [Scan.found]

/-- A semicolon among the tokens is written where it is found, or left out where the statement ends without one. -/
theorem finds_semicolon (finds : Finds accepts c text s) (token : s.token = some .semicolon) :
    (c.start accepts).block = .statements ∧ s.context.block = .statements ∧
      ((∃ rest, text.drop s.start = Char.toNat ';' :: rest ∧ s.stop = s.start + 1) ∨
        s.stop = s.start ∧ (c.start accepts).semicolon = false ∧ BehindLeftOut s.context (text.drop s.stop)) := by
  cases finds with
  | @semicolon gap rest split _ block =>
    refine ⟨block, block, Or.inl ⟨rest, ?_, ?_⟩⟩
    · rw [split]
      simp [Scan.behind, Scan.found]
    · simp only [Scan.behind, Scan.found]
      omega
  | @emptySemicolon gap rest split _ ends block _ first =>
    have left : text.drop gap.length = rest := by rw [split, List.drop_left]
    refine ⟨block, block, Or.inr ⟨rfl, first, rfl, block, ?_⟩⟩
    simpa [Scan.behind, Scan.found, left] using ends
  | token _ _ reads => exact absurd token reads.ne_semicolon

end Context

namespace Reader

/-- A later piece that a semicolon is left out for stands at a later place, also counted from where its scan was placed. -/
def Apart (p q : Piece) : Prop := p.LeavesOut → q.LeavesOut → p.position < q.position ∧ p.start < q.start

/-- What holds of the pieces of a run that starts in a coherent context: none lies before its place, semicolons are not left
out twice, and not at all at the place itself if one was just left out there. -/
structure Spaced (r : Reader) (pieces : List Piece) : Prop where
  onward : ∀ p ∈ pieces, r.position ≤ p.position ∧ p.position ≤ p.start
  apart : pieces.Pairwise Apart
  once : r.context.Started → r.context.BehindLeftOut r.rest → ∀ p ∈ pieces, p.LeavesOut → r.position < p.position

theorem spaced_of_coherent (r : Reader) (calls : List (Token → Bool)) (coherent : r.context.Coherent) :
    r.Spaced (r.pieces calls) := by
  refine run_induction r calls (P := fun r pieces _ => r.context.Coherent → r.Spaced pieces) ?_ ?_ coherent
  · intro r _
    exact ⟨by simp, .nil, by simp⟩
  · intro r accepts p pieces last found ih coherent
    obtain ⟨s, t, finds, token, rfl⟩ := r.next?_finds accepts p found
    have started : s.context.Started := coherent.finds finds
    obtain ⟨onward, apart, once⟩ := ih (Or.inr started)
    rw [behind_rest] at once
    have low : s.start ≤ s.stop := (Context.finds_length finds token).2.1
    have here : ∀ q ∈ pieces, r.position + s.stop ≤ q.position ∧ q.position ≤ q.start := onward
    refine ⟨?_, ?_, ?_⟩
    · rw [List.forall_mem_cons]
      refine ⟨⟨Nat.le_refl _, Nat.le_add_right _ _⟩, ?_⟩
      intro q member
      have bounds := here q member
      omega
    · refine List.pairwise_cons.mpr ⟨?_, apart⟩
      intro q member ⟨kind, empty⟩ second
      -- The scanner remembers the first semicolon until something is read, so the second stands further on.
      obtain rfl : t = .semicolon := kind
      have empty : r.position + s.start = r.position + s.stop := empty
      obtain ⟨_, _, ⟨_, _, longer⟩ | ⟨_, _, behind⟩⟩ := Context.finds_semicolon finds token
      · omega
      · have further : r.position + s.stop < q.position := once started behind q member second
        have bounds := here q member
        dsimp only [piece]
        omega
    -- A semicolon that was just left out is not left out again before something is read.
    · intro begun behind
      have advances := behind.settled.advances begun finds
      refine List.forall_mem_cons.mpr ⟨?_, ?_⟩
      · intro ⟨kind, empty⟩
        obtain rfl : t = .semicolon := kind
        have empty : r.position + s.start = r.position + s.stop := empty
        obtain ⟨_, _, ⟨_, _, longer⟩ | ⟨_, first, _⟩⟩ := Context.finds_semicolon finds token
        · omega
        · rw [begun.start, behind.flag] at first
          cases first
      · intro q member _
        have bounds := here q member
        omega

/-- A semicolon among the pieces of a run is found in a statement tag, and it is written there or left out where that is
allowed. -/
theorem semicolon_of_mem (r : Reader) (calls : List (Token → Bool)) :
    ∀ p ∈ r.pieces calls, p.token = .semicolon →
      (p.before.start p.accepts).block = .statements ∧ p.after.block = .statements ∧
        (p.span r.text = [Char.toNat ';'] ∨ p.start = p.stop ∧ Context.EndsStatement (r.text.drop p.stop)) := by
  refine run_induction r calls (P := fun r pieces _ => ∀ p ∈ pieces, p.token = .semicolon →
      (p.before.start p.accepts).block = .statements ∧ p.after.block = .statements ∧
        (p.span r.text = [Char.toNat ';'] ∨ p.start = p.stop ∧ Context.EndsStatement (r.text.drop p.stop))) ?_ ?_
  · simp
  · intro r accepts p pieces last found ih
    obtain ⟨s, t, finds, token, rfl⟩ := r.next?_finds accepts p found
    refine List.forall_mem_cons.mpr ⟨?_, ih⟩
    intro kind
    obtain rfl : t = .semicolon := kind
    obtain ⟨before, after, written⟩ := Context.finds_semicolon finds token
    refine ⟨before, after, ?_⟩
    dsimp only [piece, Piece.span]
    rw [rest, List.drop_drop] at written
    -- The piece is the semicolon itself, or empty in front of what ends the statement.
    rcases written with ⟨others, here, longer⟩ | ⟨empty, _, behind⟩
    · left
      rw [List.extract_eq_take_drop, here, longer]
      simp [← Nat.add_assoc]
    · right
      rw [List.drop_drop] at behind
      exact ⟨by rw [empty], behind.ends⟩

/-- In a run from the start, whatever is accepted, no two semicolons are left out at the same place. Semicolons are found among
statements only, and each is written or stands directly before a closing brace, a NUL or the end of the text. -/
theorem pieces_semicolons (text : List CodePoint) (position : Nat) (calls : List (Token → Bool)) :
    let pieces := (Reader.mk text position .fresh).pieces calls
    (pieces.Pairwise fun p q => p.LeavesOut → q.LeavesOut → p.position < q.position ∧ p.start < q.start) ∧
      ∀ p ∈ pieces, p.token = .semicolon →
        (p.before.start p.accepts).block = .statements ∧ p.after.block = .statements ∧
          (p.span text = [Char.toNat ';'] ∨
            p.start = p.stop ∧ ∀ a ∈ text[p.stop]?, a = Char.toNat '}' ∨ a = CodePoint.nul) := by
  intro pieces
  refine ⟨(spaced_of_coherent _ calls (Or.inl rfl)).apart, ?_⟩
  intro p member kind
  have written := semicolon_of_mem _ calls p member kind
  rwa [Context.EndsStatement, List.head?_drop] at written

end Reader
end Ucode.Template

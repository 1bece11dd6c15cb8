import Ucode.Proofs.Template.Outcome
import Ucode.Template.Snapshot

/-!
# Runs of the scanner

Whoever drives the scanner calls it again and again, with another set of accepted tokens each time, and undoes a
scan that finds nothing. `Context.follow` follows such calls wherever each of them is placed, and `Reader.run`
those that are placed one behind the other on one text. `Context.Reachable` asks for less: it also keeps what a
scan has changed when it found nothing, and goes back to contexts that were saved before.
-/
namespace Ucode.Template

/-- Whether each token of a list fits the state that the tokens before it lead to. -/
def Token.EachFits {State : Type} (fits : State → Token → Prop) (next : State → Token → State) (state : State) :
    List Token → Prop
  | [] => True
  | t :: ts => fits state t ∧ EachFits fits next (next state t) ts

/-- One call of the scanner: the tokens that are accepted, and the text from the place of the call. -/
structure Call where
  accepts : Token → Bool
  text : List CodePoint

namespace Context

/-- The tokens that calls find one after the other, and the context that they leave. -/
def follow (c : Context) : List Call → List Token × Context
  | [] => ([], c)
  | call :: calls =>
    let s := c.scan call.accepts call.text
    match s.token with
    | none => c.follow calls
    | some t =>
      let (ts, last) := s.context.follow calls
      (t :: ts, last)

/-- The contexts that scans of any texts lead to, whether they find anything or not, with snapshots restored in
between. -/
inductive Reachable : Context → Prop where
  | fresh : Reachable .fresh
  | scan {c : Context} (accepts : Token → Bool) (text : List CodePoint) (reached : Reachable c) :
      Reachable (c.scan accepts text).context
  | restore {c saved : Context} (reached : Reachable c) (earlier : Reachable saved) :
      Reachable (c.resume saved.save)

end Context

/-- A token that was read: by which call, from which context into which, and where. Positions are counted in code
points from the start of the text. -/
structure Piece where
  accepts : Token → Bool
  before : Context
  after : Context
  token : Token
  /-- Where the scan was placed. -/
  position : Nat
  start : Nat
  stop : Nat
  /-- How far the text was read. -/
  read : Nat

/-- A scanner at a place in a text. -/
structure Reader where
  text : List CodePoint
  position : Nat
  context : Context

namespace Reader

/-- The text from the place of the reader. -/
def rest (r : Reader) : List CodePoint := r.text.drop r.position

/-- The reader behind a piece. -/
def behind (r : Reader) (p : Piece) : Reader := { r with position := p.stop, context := p.after }

/-- The piece that the outcome of a scan is about. -/
def piece (r : Reader) (accepts : Token → Bool) (s : Scan) (t : Token) : Piece :=
  ⟨accepts, r.context, s.context, t, r.position, r.position + s.start, r.position + s.stop, r.position + s.read⟩

/-- The piece that a call finds. -/
def next? (r : Reader) (accepts : Token → Bool) : Option Piece :=
  let s := r.context.scan accepts r.rest
  s.token.map (r.piece accepts s)

/-- The pieces that calls find one behind the other, and the reader behind them. -/
def run (r : Reader) : List (Token → Bool) → List Piece × Reader
  | [] => ([], r)
  | accepts :: calls =>
    match r.next? accepts with
    | none => r.run calls
    | some p =>
      let (pieces, last) := (r.behind p).run calls
      (p :: pieces, last)

/-- The pieces of a run. -/
def pieces (r : Reader) (calls : List (Token → Bool)) : List Piece := (r.run calls).1

/-- The reader behind a run. -/
def last (r : Reader) (calls : List (Token → Bool)) : Reader := (r.run calls).2

variable (r : Reader) (accepts : Token → Bool) (calls : List (Token → Bool)) (p : Piece)

@[simp] theorem pieces_nil : r.pieces [] = [] := rfl

@[simp] theorem last_nil : r.last [] = r := rfl

theorem pieces_cons_none (nothing : r.next? accepts = none) : r.pieces (accepts :: calls) = r.pieces calls := by
  simp only [pieces, run, nothing]

theorem last_cons_none (nothing : r.next? accepts = none) : r.last (accepts :: calls) = r.last calls := by
  simp only [last, run, nothing]

theorem pieces_cons_some (found : r.next? accepts = some p) :
    r.pieces (accepts :: calls) = p :: (r.behind p).pieces calls := by
  simp only [pieces, run, found]

theorem last_cons_some (found : r.next? accepts = some p) :
    r.last (accepts :: calls) = (r.behind p).last calls := by
  simp only [last, run, found]

/-- What holds of a run without pieces and is passed on from a run to the same run with one piece more before it, holds
of every run. -/
theorem run_induction {P : Reader → List Piece → Reader → Prop} (stop : ∀ r, P r [] r)
    (step : ∀ r accepts p pieces last, r.next? accepts = some p → P (r.behind p) pieces last → P r (p :: pieces) last) :
    P r (r.pieces calls) (r.last calls) := by
  induction calls generalizing r with
  | nil =>
    rw [pieces_nil, last_nil]
    exact stop r
  | cons accepts calls ih =>
    cases found : r.next? accepts with
    | none =>
      rw [pieces_cons_none r accepts calls found, last_cons_none r accepts calls found]
      exact ih r
    | some p =>
      rw [pieces_cons_some r accepts calls p found, last_cons_some r accepts calls p found]
      exact step r accepts p _ _ found (ih (r.behind p))

theorem last_text : (r.last calls).text = r.text :=
  run_induction r calls (P := fun r _ last => last.text = r.text) (fun _ => rfl) (fun _ _ _ _ _ _ same => same)

theorem next?_finds (found : r.next? accepts = some p) :
    ∃ s t, Context.Finds accepts r.context r.rest s ∧ s.token = some t ∧ p = r.piece accepts s t := by
  obtain ⟨t, token, rfl⟩ := Option.map_eq_some_iff.mp found
  exact ⟨_, t, Context.scan_finds accepts r.context r.rest t token, token, rfl⟩

/-- A run behind which pieces stand is the run of some of its calls, and the other calls find those pieces. -/
theorem pieces_eq_append (front back : List Piece) (split : r.pieces calls = front ++ back) :
    ∃ first later, calls = first ++ later ∧ r.pieces first = front ∧ (r.last first).pieces later = back := by
  induction calls generalizing r front with
  | nil =>
    obtain ⟨rfl, rfl⟩ := List.nil_eq_append_iff.mp split
    exact ⟨[], [], rfl, rfl, rfl⟩
  | cons accepts calls ih =>
    cases front with
    | nil => exact ⟨[], accepts :: calls, rfl, rfl, split⟩
    | cons q front =>
      cases found : r.next? accepts with
      | none =>
        -- A call that finds nothing goes with the calls that find the first pieces.
        rw [pieces_cons_none r accepts calls found] at split
        obtain ⟨first, later, rfl, before, after⟩ := ih r (q :: front) split
        refine ⟨accepts :: first, later, rfl, ?_, ?_⟩
        · rw [pieces_cons_none r accepts first found, before]
        · rw [last_cons_none r accepts first found, after]
      | some p =>
        rw [pieces_cons_some r accepts calls p found] at split
        obtain ⟨rfl, same⟩ := List.cons.inj split
        obtain ⟨first, later, rfl, before, after⟩ := ih (r.behind p) front same
        refine ⟨accepts :: first, later, rfl, ?_, ?_⟩
        · rw [pieces_cons_some r accepts first p found, before]
        · rw [last_cons_some r accepts first p found, after]

theorem pieces_eq_cons (back : List Piece) (split : r.pieces calls = p :: back) :
    ∃ accepts later, r.next? accepts = some p ∧ (r.behind p).pieces later = back := by
  induction calls with
  | nil => cases split
  | cons accepts calls ih =>
    cases found : r.next? accepts with
    | none => exact ih (by rw [← split, pieces_cons_none r accepts calls found])
    | some q =>
      rw [pieces_cons_some r accepts calls q found] at split
      obtain ⟨rfl, same⟩ := List.cons.inj split
      exact ⟨accepts, calls, found, same⟩

end Reader
end Ucode.Template

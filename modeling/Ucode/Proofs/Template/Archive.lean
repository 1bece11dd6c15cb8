import Ucode.Proofs.Template.Coherence
import Ucode.Proofs.Template.Memory

/-!
# Scanners are put away and taken up again

A scanner that was saved can be restored into any other: the words that the other has held do not show, neither in the
words in use nor in what later scans find. And however scans, snapshots and restorations follow each other, no access ever
misses the words, and the mode goes with the block.
-/
namespace Ucode.Template

/-- The outcomes of calls one after the other, where each call goes on from what the one before it has left. -/
def Context.scans (c : Context) : List Call → List Scan
  | [] => []
  | call :: calls =>
    let s := c.scan call.accepts call.text
    s :: s.context.scans calls

namespace Scanner

/-- The outcomes of calls one after the other. -/
def scans (s : Scanner) : List Call → Option (List Scan)
  | [] => some []
  | call :: calls => do
    let (outcome, next) ← s.scan call.accepts call.text
    let outcomes ← next.scans calls
    return outcome :: outcomes

/-- Two scanners that have the same fields and the same words in use. -/
structure Agrees (s t : Scanner) : Prop where
  mode : s.mode = t.mode
  block : s.block = t.block
  semicolon : s.semicolon = t.semicolon
  depth : s.store.depth = t.store.depth
  words : ∀ i < t.store.depth, s.store.read i = t.store.read i

theorem scans_written (s : Scanner) (calls : List Call) (written : s.store.Written) :
    s.scans calls = some (s.context.scans calls) := by
  induction calls generalizing s with
  | nil => rfl
  | cons call calls ih =>
    obtain ⟨next, scanned, after, same⟩ := s.scan_written call.accepts call.text written
    have others := ih next after
    rw [same] at others
    rw [scans, scanned]
    simp only [Option.bind_eq_bind, Option.bind_some]
    rw [others]
    rfl

theorem agrees_of_context (s t : Scanner) (writtenS : s.store.Written) (writtenT : t.store.Written)
    (same : s.context = t.context) : s.Agrees t := by
  have nesting : s.store.nesting = t.store.nesting := congrArg Context.nesting same
  have holds := writtenS.holds
  rw [nesting] at holds
  have depth : s.store.depth = t.store.depth := holds.depth.trans writtenT.holds.depth.symm
  refine ⟨congrArg Context.mode same, congrArg Context.block same, congrArg Context.semicolon same, depth, ?_⟩
  intro i used
  rw [holds.read_of_lt i (by rwa [depth]), writtenT.holds.read_of_lt i used]

/-- Whoever restores a snapshot that fits has the context that it was taken of, and all words of it. -/
theorem resume_of_le (t : Scanner) (c : Context) (small : c.nesting.length ≤ 125) :
    ∃ next, t.resume c.save = some next ∧ next.store.Written ∧ next.context = c := by
  obtain ⟨_, fits, count⟩ := c.record_fits small
  obtain ⟨next, restored, written, same⟩ := t.restore_written _ _ fits (Nat.le_of_eq count)
  have described := t.context.resume_save_of_le c small
  rw [c.save_of_le small] at described ⊢
  exact ⟨next, restored, written, same.trans described⟩

/-- A scanner whose snapshot fits has one of 24 bytes and 8 more for each placeholder, and whoever restores it has the
same fields and the same counts, and finds the same in every sequence of scans. A scanner whose snapshot does not fit has
none, and restoring none changes nothing. -/
theorem restore_save (s : Scanner) (written : s.store.Written) :
    (s.store.depth ≤ 125 →
      ∃ record, s.save = some (some record) ∧ record.bytes = 24 + 8 * s.store.depth ∧ record.bytes ≤ 1024 ∧
        ∀ t : Scanner, ∃ next, t.restore record record.bytes = some next ∧ next.Agrees s ∧
          ∀ calls, ∃ outcomes, next.scans calls = some outcomes ∧ s.scans calls = some outcomes) ∧
    (125 < s.store.depth →
      s.save = some none ∧ ∀ t : Scanner, t.resume none = some t ∧ ∀ record, t.restore record 0 = some t) := by
  have depth : s.store.depth = s.context.nesting.length := written.holds.depth
  rw [s.save_written written, depth]
  constructor
  · intro small
    have bytes := (s.context.record_fits small).1
    refine ⟨_, by rw [s.context.save_of_le small], bytes, by omega, ?_⟩
    intro t
    obtain ⟨next, restored, writtenNext, same⟩ := t.resume_of_le s.context small
    rw [s.context.save_of_le small] at restored
    refine ⟨next, restored, next.agrees_of_context s writtenNext written same, ?_⟩
    -- Both hold the same context, and nothing else decides what is found.
    intro calls
    exact ⟨s.context.scans calls, by rw [next.scans_written calls writtenNext, same], s.scans_written calls written⟩
  · intro large
    refine ⟨by rw [s.context.save_of_lt large], ?_⟩
    intro t
    exact ⟨rfl, fun record => by simp [restore, Snapshot.fits, Snapshot.headerBytes]⟩

/-- A scanner in two placeholders, with a word left over from a third, is 40 bytes to any other scanner. -/
theorem restore_save_two :
    let s : Scanner := ⟨.code, .statements, true, ⟨[some 2, some 0, none], 2⟩⟩
    s.store.Written ∧ s.store.depth ≤ 125 ∧
      ∃ record, s.save = some (some record) ∧ record.bytes = 40 ∧
        ∀ t : Scanner, ∃ next, t.restore record record.bytes = some next ∧ next.Agrees s := by
  intro s
  have holds : s.store.Holds [0, 2] := ⟨rfl, [none], rfl⟩
  have small : s.store.depth ≤ 125 := by decide
  obtain ⟨record, saved, bytes, _, restored⟩ := (s.restore_save holds.written).1 small
  refine ⟨holds.written, small, record, saved, bytes, ?_⟩
  intro t
  obtain ⟨next, same, agrees, _⟩ := restored t
  exact ⟨next, same, agrees⟩

end Scanner

/-- What can be done with a scanner. -/
inductive Operation where
  /-- A scan anywhere in any text. It is not undone when it finds nothing. -/
  | scan (accepts : Token → Bool) (text : List CodePoint)
  /-- The snapshot is put behind those that were taken before. -/
  | save
  /-- The snapshot with this number is restored, if it was taken. -/
  | restore (number : Nat)

/-- A scanner and the snapshots that were taken so far. -/
structure Archive where
  scanner : Scanner
  saved : List (Option Snapshot)

namespace Archive

/-- A fresh scanner, of which no snapshot was taken yet. -/
def fresh : Archive := ⟨.fresh, []⟩

def perform (a : Archive) : Operation → Option Archive
  | .scan accepts text => do
    let (_, next) ← a.scanner.scan accepts text
    return { a with scanner := next }
  | .save => do
    let record ← a.scanner.save
    return { a with saved := a.saved ++ [record] }
  | .restore number => do
    let next ← a.scanner.resume a.saved[number]?.join
    return { a with scanner := next }

/-- The archive behind some operations, unless one of them has no outcome. -/
def run (a : Archive) : List Operation → Option Archive
  | [] => some a
  | operation :: operations => do
    let next ← a.perform operation
    next.run operations

/-- What holds of an archive all along: every word in use was written, the mode goes with the block, and all snapshots
are of scanners of which this holds. -/
structure Kept (a : Archive) : Prop where
  written : a.scanner.store.Written
  coherent : a.scanner.context.Coherent
  saved : ∀ record ∈ a.saved, ∃ c : Context, c.Coherent ∧ record = c.save

theorem fresh_kept : fresh.Kept where
  written := Store.empty_holds.written
  coherent := Or.inl rfl
  saved := by simp [fresh]

theorem Kept.resume {a : Archive} (kept : a.Kept) (number : Nat) :
    ∃ next, a.scanner.resume a.saved[number]?.join = some next ∧ Kept { a with scanner := next } := by
  cases taken : a.saved[number]? with
  | none => exact ⟨a.scanner, rfl, kept⟩
  | some record =>
    obtain ⟨c, coherent, rfl⟩ := kept.saved record (List.mem_of_getElem? taken)
    rcases Nat.lt_or_ge 125 c.nesting.length with large | small
    · -- The snapshot did not fit, so there is none and the scanner stays as it is.
      rw [c.save_of_lt large]
      exact ⟨a.scanner, rfl, kept⟩
    · obtain ⟨next, restored, written, same⟩ := a.scanner.resume_of_le c small
      exact ⟨next, restored, written, by rwa [same], kept.saved⟩

/-- No operation misses a word, and each keeps what holds all along. -/
theorem Kept.perform {a : Archive} (kept : a.Kept) (operation : Operation) :
    ∃ next, a.perform operation = some next ∧ next.Kept := by
  -- One case for each operation: scanning may lose no word, saving adds a snapshot, restoring takes one that was
  -- kept.
  cases operation with
  | scan accepts text =>
    obtain ⟨next, scanned, written, same⟩ := a.scanner.scan_written accepts text kept.written
    refine ⟨{ a with scanner := next }, by rw [Archive.perform, scanned]; rfl, written, ?_, kept.saved⟩
    rw [same]
    exact Or.inr kept.coherent.scan
  | save =>
    have saved := a.scanner.save_written kept.written
    refine ⟨{ a with saved := a.saved ++ [a.scanner.context.save] }, by rw [Archive.perform, saved]; rfl,
      kept.written, kept.coherent, ?_⟩
    intro record member
    rcases List.mem_append.mp member with earlier | last
    · exact kept.saved record earlier
    · exact ⟨_, kept.coherent, List.mem_singleton.mp last⟩
  | restore number =>
    obtain ⟨next, restored, keptNext⟩ := kept.resume number
    exact ⟨{ a with scanner := next }, by rw [Archive.perform, restored]; rfl, keptNext⟩

theorem Kept.run {a : Archive} (kept : a.Kept) (operations : List Operation) :
    ∃ last, a.run operations = some last ∧ last.Kept := by
  induction operations generalizing a with
  | nil => exact ⟨a, rfl, kept⟩
  | cons operation operations ih =>
    obtain ⟨next, performed, keptNext⟩ := kept.perform operation
    obtain ⟨last, others, keptLast⟩ := ih keptNext
    exact ⟨last, by simp [Archive.run, performed, others], keptLast⟩

end Archive

theorem Context.scan_finished (c : Context) (accepts : Token → Bool) (text : List CodePoint)
    (mode : c.mode = .finished) : (c.scan accepts text).context.mode = .finished := by
  have same : c.start accepts = c := start_of_begun (by simp [mode]) accepts
  -- In this mode no rule of reading applies, so there is at most a semicolon, which leaves the mode.
  rcases scan_cases accepts c text with finds | ⟨_, left | ⟨rest, outcome, came, left⟩⟩
  · generalize c.scan accepts text = s at finds
    cases finds with
    | semicolon => exact (congrArg Context.mode same).trans mode
    | emptySemicolon => exact (congrArg Context.mode same).trans mode
    | token _ _ reads =>
      rw [same] at reads
      cases reads <;> simp_all
  · rw [left]
    exact (congrArg Context.mode same).trans mode
  · rw [left]
    rw [same] at came
    cases came with
    | read reads => cases reads <;> simp_all
    | stay => exact mode
    | finish => rfl
    | leave _ template => simp [mode] at template

namespace Archive

/-- However scans, snapshots and restorations follow each other, all of them have an outcome, so no access misses the words and
no count goes below zero. Nothing was read with a scanner in its initial mode, the mode goes with the block, and at the end of the
text a scanner stays there. -/
theorem run_keeps (operations : List Operation) :
    ∃ a, fresh.run operations = some a ∧
      (a.scanner.mode = .initial → a.scanner.block = .none ∧ a.scanner.store.depth = 0 ∧ a.scanner.semicolon = false) ∧
      a.scanner.mode.Admits a.scanner.block ∧
      a.scanner.store.depth ≤ a.scanner.store.words.length ∧
      (a.scanner.mode = .finished → ∀ accepts text, ∃ outcome next,
        a.scanner.scan accepts text = some (outcome, next) ∧ next.mode = .finished) := by
  obtain ⟨a, ran, kept⟩ := fresh_kept.run operations
  have depth : a.scanner.store.depth = a.scanner.context.nesting.length := kept.written.holds.depth
  refine ⟨a, ran, ?_, ?_, kept.written.holds.depth_le, ?_⟩
  · intro initial
    rcases kept.coherent with same | started
    · refine ⟨congrArg Context.block same, ?_, congrArg Context.semicolon same⟩
      rw [depth, same]
      rfl
    · exact absurd initial started.begun
  · rcases kept.coherent with same | started
    · have mode : a.scanner.mode = .initial := congrArg Context.mode same
      rw [mode]
      exact congrArg Context.block same
    · exact started.admits
  · intro finished accepts text
    obtain ⟨next, scanned, _, same⟩ := a.scanner.scan_written accepts text kept.written
    refine ⟨_, next, scanned, ?_⟩
    have stays := a.scanner.context.scan_finished accepts text finished
    rwa [← same] at stays

end Archive
end Ucode.Template

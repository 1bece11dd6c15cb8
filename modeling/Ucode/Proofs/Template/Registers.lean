import Mathlib.Algebra.Group.Nat.Defs
import Ucode.Proofs.Template.Memory
import Ucode.Template.Registers

/-!
# Records are taken over as a whole or not at all

Whatever numbers a record holds, a scanner takes over all of it if the record is not cut short, and stays as it is if it is, as long
as eight bytes for each word that the record says it has can be counted in a machine word. Beyond that the count wraps, and a record
can pass that is not nearly there. On records of snapshots all this is what `Scanner.restore` and `Scanner.save` do.
-/
namespace Ucode.Template

namespace Store

variable {s : Store}

theorem load_none (s : Store) {record : List Nat} {n : Nat} (missing : record.length < n) : s.load record n = none := by
  induction n with
  | zero => omega
  | succ n ih =>
    rw [load]
    by_cases earlier : record.length < n
    · rw [ih earlier]
      rfl
    · have absent : record[n]? = none := List.getElem?_eq_none (by omega)
      rw [absent]
      cases s.load record n <;> rfl

theorem restore_none (s : Store) {record : List Nat} {count : Nat} (missing : record.length < count) :
    s.restore record count = none := by
  rw [restore, if_neg (by omega), load_none _ missing]
  rfl

theorem load_congr (s : Store) {record other : List Nat} {n : Nat} (same : ∀ i < n, other[i]? = record[i]?) :
    s.load other n = s.load record n := by
  induction n with
  | zero => rfl
  | succ n ih => rw [load, load, ih fun i less => same i (by omega), same n (Nat.lt_succ_self n)]

theorem restore_congr (s : Store) {record other : List Nat} {count : Nat} (same : ∀ i < count, other[i]? = record[i]?) :
    s.restore other count = s.restore record count := by
  rw [restore, restore, load_congr _ same]

end Store

/-- The bytes that so many words come to in a machine word. -/
theorem toNat_mul_eight (count : UInt64) : (count * 8).toNat = 8 * count.toNat % 2 ^ 64 := by
  rw [UInt64.toNat_mul, Nat.mul_comm]
  rfl

namespace Record

variable {r : Record} {length : UInt32}

/-- The bytes that a record takes, as it says. -/
def needed (r : Record) : Nat := Snapshot.bytesFor r.count.toNat

theorem needed_eq (r : Record) : r.needed = 24 + 8 * r.count.toNat := rfl

/-- Whether so many bytes are too few, but enough for what the bytes of the words come to in a machine word. -/
def Wraps (r : Record) (length : UInt32) : Prop :=
  24 ≤ length.toNat ∧ length.toNat < r.needed ∧ 8 * r.count.toNat % 2 ^ 64 ≤ length.toNat - 24

/-- Two records of which one has all that the other says it has. -/
structure Same (r o : Record) : Prop where
  mode : o.mode = r.mode
  block : o.block = r.block
  semicolon : o.semicolon = r.semicolon
  count : o.count = r.count
  words : ∀ i < r.count.toNat, o.word i = r.word i

theorem fits_iff (r : Record) (length : UInt32) :
    r.fits length = true ↔ 24 ≤ length.toNat ∧ 8 * r.count.toNat % 2 ^ 64 ≤ length.toNat - 24 := by
  have head : (24 : UInt32) ≤ length ↔ 24 ≤ length.toNat := UInt32.le_iff_toNat_le
  unfold fits
  rw [Bool.and_eq_true, decide_eq_true_iff, decide_eq_true_iff, head, UInt64.le_iff_toNat_le, toNat_mul_eight]
  refine and_congr_right fun enough => ?_
  have whole : (24 : UInt64) ≤ length.toUInt64 := by
    rw [UInt64.le_iff_toNat_le, UInt32.toNat_toUInt64]
    exact enough
  rw [UInt64.toNat_sub_of_le _ _ whole, UInt32.toNat_toUInt64]
  rfl

theorem Wraps.large (wraps : r.Wraps length) : 2 ^ 61 ≤ r.count.toNat := by
  obtain ⟨enough, short, wrapped⟩ := wraps
  rw [needed_eq] at short
  -- Eight bytes for each of fewer words would be counted in full.
  by_contra small
  rw [Nat.mod_eq_of_lt (by omega)] at wrapped
  omega

theorem fits_cases (r : Record) (length : UInt32) :
    r.fits length = true ↔ r.needed ≤ length.toNat ∨ r.Wraps length := by
  rw [fits_iff, Wraps, needed_eq]
  have bound := length.toNat_lt
  constructor
  -- The bytes of the words are compared without the head, and only as far as a machine word counts.
  · rintro ⟨enough, product⟩
    by_cases whole : 24 + 8 * r.count.toNat ≤ length.toNat
    · exact Or.inl whole
    · exact Or.inr ⟨enough, by omega, product⟩
  · rintro (whole | ⟨enough, _, product⟩)
    · refine ⟨by omega, ?_⟩
      rw [Nat.mod_eq_of_lt (by omega)]
      omega
    · exact ⟨enough, product⟩

theorem length_within (r : Record) (length : UInt32) :
    (r.within length).length = (length.toNat - 24) / 8 := by
  simp [within, Snapshot.headerBytes, Snapshot.wordBytes]

theorem getElem?_within (r : Record) {length : UInt32} {i : Nat} (inside : Snapshot.bytesFor (i + 1) ≤ length.toNat) :
    (r.within length)[i]? = some (r.word i).toNat := by
  have small : i < (length.toNat - Snapshot.headerBytes) / Snapshot.wordBytes := by
    simp only [Snapshot.bytesFor, Snapshot.headerBytes, Snapshot.wordBytes] at inside ⊢
    omega
  rw [within, List.getElem?_map, List.getElem?_range small, Option.map_some]

end Record

namespace Registers

/-- A scanner that has taken over a record. -/
structure Holds (s : Registers) (r : Record) : Prop where
  mode : s.mode = r.mode
  block : s.block = r.block
  semicolon : s.semicolon = r.semicolon
  depth : s.store.depth = r.count.toNat
  words : ∀ i < r.count.toNat, s.store.read i = some (r.word i).toNat

variable {s : Registers} {r : Record} {length : UInt32}

/-- A record that is there as a whole is taken over, whatever the scanner held before. -/
theorem restore_whole (s : Registers) (whole : r.needed ≤ length.toNat) :
    ∃ next, s.restore r length = some next ∧ next.Holds r := by
  rw [Record.needed_eq] at whole
  -- All words that are copied end within the length.
  have there : r.count.toNat ≤ (r.within length).length := by
    rw [r.length_within]
    omega
  obtain ⟨store, restored, holds⟩ := s.store.restore_holds _ _ there
  have depth : store.depth = r.count.toNat := by
    rw [holds.depth, List.length_reverse, List.length_take, Nat.min_eq_left there]
  refine ⟨⟨r.mode, r.block, r.semicolon, store⟩, ?_, rfl, rfl, rfl, depth, ?_⟩
  · rw [restore, if_pos ((r.fits_cases length).mpr (Or.inl whole)), restored]
    rfl
  · intro i used
    have inside : Snapshot.bytesFor (i + 1) ≤ length.toNat := by
      simp only [Snapshot.bytesFor, Snapshot.headerBytes, Snapshot.wordBytes]
      omega
    rw [holds.read_of_lt i (by omega), List.reverse_reverse, List.getElem?_take_of_lt used, r.getElem?_within inside]

/-- A record that is cut short is ignored, if its count does not wrap. -/
theorem restore_short (s : Registers) (short : length.toNat < r.needed) (exact : ¬r.Wraps length) :
    s.restore r length = some s := by
  rw [restore, if_neg]
  rw [r.fits_cases length]
  rintro (whole | wraps)
  · omega
  · exact absurd wraps exact

/-- If it does, words are asked for that do not end within the length. -/
theorem restore_wraps (s : Registers) (wraps : r.Wraps length) : s.restore r length = none := by
  have fits := (r.fits_cases length).mpr (Or.inr wraps)
  obtain ⟨enough, short, _⟩ := wraps
  rw [Record.needed_eq] at short
  have missing : (r.within length).length < r.count.toNat := by
    rw [r.length_within]
    omega
  rw [restore, if_pos fits, s.store.restore_none missing]
  rfl

/-- Only the words that end within the length make a difference. -/
theorem restore_unread (s : Registers) (word : Nat → UInt64)
    (same : ∀ i, Snapshot.bytesFor (i + 1) ≤ length.toNat → word i = r.word i) :
    s.restore { r with word := word } length = s.restore r length := by
  have within : Record.within { r with word := word } length = r.within length := by
    refine List.map_congr_left fun i member => ?_
    have small := List.mem_range.mp member
    simp only [Snapshot.headerBytes, Snapshot.wordBytes] at small
    refine congrArg UInt64.toNat (same i ?_)
    simp only [Snapshot.bytesFor, Snapshot.headerBytes, Snapshot.wordBytes]
    omega
  rw [restore, restore, within]
  rfl

theorem save_written (written : s.store.Written) (small : s.store.depth ≤ 125) (old : Record) :
    s.save old = some (Snapshot.bytesFor s.store.depth, ⟨s.mode, s.block, s.semicolon, s.store.depth.toUInt64,
      fun i => (s.store.nesting.reverse[i]?.map Nat.toUInt64).getD (old.word i)⟩) := by
  rw [save, if_pos ((Context.bytesFor_le_iff _).mpr small), written.holds.dump]
  rfl

/-- A scanner that has taken over a record gives it back. -/
theorem Holds.save (holds : s.Holds r) (small : r.count.toNat ≤ 125) (old : Record) :
    ∃ copy, s.save old = some (r.needed, copy) ∧ r.Same copy := by
  have written : s.store.Written := fun i used => ⟨_, holds.words i (by rwa [holds.depth] at used)⟩
  have saved := save_written written (by rwa [holds.depth]) old
  rw [holds.depth] at saved
  refine ⟨_, saved, holds.mode, holds.block, holds.semicolon, ?_, ?_⟩
  · exact UInt64.ofNat_toNat
  · intro i used
    dsimp only
    rw [← written.holds.read_of_lt i (by rwa [holds.depth]), holds.words i used]
    simp

/-- A record, whatever its numbers, that is there as a whole is taken over exactly, and a small one is given back when the
scanner is written down again. If it is cut short nothing changes, unless the count wraps: then words are asked for beyond the
length. Otherwise no word that does not end within the length makes a difference, and no count below 2 ^ 61 wraps. -/
theorem restore_record (s : Registers) (r : Record) (length : UInt32) :
    (r.needed ≤ length.toNat → ∃ next, s.restore r length = some next ∧ next.Holds r ∧
      (r.count.toNat ≤ 125 → ∀ old, ∃ copy, next.save old = some (24 + 8 * r.count.toNat, copy) ∧ r.Same copy)) ∧
    (length.toNat < r.needed → (s.restore r length = some s ↔ ¬r.Wraps length)) ∧
    (r.Wraps length → s.restore r length = none ∧ 2 ^ 61 ≤ r.count.toNat) ∧
    ∀ word, (∀ i, Snapshot.bytesFor (i + 1) ≤ length.toNat → word i = r.word i) →
      s.restore { r with word := word } length = s.restore r length := by
  refine ⟨fun whole => ?_, fun short => ?_, fun wraps => ⟨s.restore_wraps wraps, wraps.large⟩, s.restore_unread⟩
  · obtain ⟨next, restored, holds⟩ := s.restore_whole whole
    exact ⟨next, restored, holds, fun small old => holds.save small old⟩
  · refine ⟨fun same wraps => ?_, s.restore_short short⟩
    rw [s.restore_wraps wraps] at same
    cases same

/-- A head of 24 bytes passes for a record of 2 ^ 61 words, since the bytes of so many words come to nothing in a machine word. -/
theorem restore_wrapped :
    let s : Registers := ⟨Mode.code.number, Block.statements.number, 0, ⟨[some 3], 1⟩⟩
    let r : Record := ⟨Mode.finished.number, Block.none.number, 1, (2 ^ 61).toUInt64, fun _ => 0⟩
    (24 : UInt32).toNat < 24 + 8 * r.count.toNat ∧ r.fits 24 = true ∧ s.restore r 24 ≠ some s := by
  intro s r
  have length : (24 : UInt32).toNat = 24 := rfl
  have count : r.count.toNat = 2 ^ 61 := rfl
  have wraps : r.Wraps 24 := by
    rw [Record.Wraps, Record.needed_eq, length, count]
    omega
  refine ⟨wraps.2.1, (r.fits_cases 24).mpr (Or.inr wraps), ?_⟩
  rw [s.restore_wraps wraps]
  simp

end Registers

/-! ### Scanners as numbers -/

namespace Snapshot

theorem fits_record (s : Snapshot) (length : UInt32) : s.record.fits length = s.fits length.toNat := by
  refine Bool.eq_iff_iff.mpr ?_
  rw [Record.fits_iff, Snapshot.fits, Bool.and_eq_true, decide_eq_true_iff, decide_eq_true_iff, toNat_mul_eight]
  rfl

theorem getElem?_within_record (s : Snapshot) {length : UInt32} {i : Nat} (inside : length.toNat ≤ s.bytes)
    (words : ∀ w ∈ s.words, w < 2 ^ 64) (ends : Snapshot.bytesFor (i + 1) ≤ length.toNat) :
    (s.record.within length)[i]? = s.words[i]? := by
  have there : i < s.words.length := by
    simp only [bytes, bytesFor, headerBytes, wordBytes] at inside ends
    omega
  have word : s.record.word i = s.words[i].toUInt64 := by
    dsimp only [record]
    rw [List.getD_eq_getElem?_getD, List.getElem?_eq_getElem there, Option.getD_some]
  rw [s.record.getElem?_within ends, List.getElem?_eq_getElem there, word, Nat.toUInt64_eq, UInt64.toNat_ofNat',
    Nat.mod_eq_of_lt (words _ (List.getElem_mem there))]

end Snapshot

namespace Scanner

/-- Restoring a snapshot that has a place in memory is the same for numbers. -/
theorem registers_restore (s : Scanner) (record : Snapshot) (length : UInt32) (inside : length.toNat ≤ record.bytes)
    (room : record.words.length < 2 ^ 61) (words : ∀ w ∈ record.words, w < 2 ^ 64) :
    s.registers.restore record.record length = (s.restore record length.toNat).map Scanner.registers := by
  rw [Registers.restore, Scanner.restore, record.fits_record]
  split_ifs with fits
  · have same : s.store.restore (record.record.within length) record.count.toNat =
        s.store.restore record.words record.count.toNat := by
      rw [← record.fits_record, Record.fits_cases] at fits
      -- Either all words of the record are there, and both read the same ones, or the count wraps and both miss one.
      rcases fits with whole | wraps
      · refine s.store.restore_congr fun i used => ?_
        rw [Record.needed_eq] at whole
        refine record.getElem?_within_record inside words ?_
        have count : i < record.record.count.toNat := used
        simp only [Snapshot.bytesFor, Snapshot.headerBytes, Snapshot.wordBytes]
        omega
      · -- There is room for fewer words than such a count asks for.
        have large : 2 ^ 61 ≤ record.count.toNat := wraps.large
        have bound := length.toNat_lt
        have missing : (record.record.within length).length < record.count.toNat := by
          rw [Record.length_within]
          omega
        rw [s.store.restore_none missing, s.store.restore_none (Nat.lt_of_lt_of_le room large)]
    rw [registers, show record.record.count = record.count from rfl, same]
    cases s.store.restore record.words record.count.toNat <;> rfl
  · rfl

/-- So is taking one. -/
theorem registers_save (s : Scanner) (written : s.store.Written) (old : Record) :
    (s.store.depth ≤ 125 → ∃ record copy, s.save = some (some record) ∧
      s.registers.save old = some (record.bytes, copy) ∧ record.record.Same copy) ∧
    (125 < s.store.depth → s.save = some none ∧ s.registers.save old = some (0, old)) := by
  have depth : s.store.depth = s.context.nesting.length := written.holds.depth
  constructor
  · intro small
    have saved := @Registers.save_written s.registers written small old
    -- Both scanners hold the same words in use.
    have words : s.registers.store.nesting = s.context.nesting := rfl
    rw [show s.registers.store.depth = s.context.nesting.length from depth, words] at saved
    rw [s.save_written written, s.context.save_of_le (by rwa [← depth])]
    refine ⟨_, ⟨s.mode.number, s.block.number, s.semicolon.toUInt8, s.context.nesting.length.toUInt64,
      fun i => (s.context.nesting.reverse[i]?.map Nat.toUInt64).getD (old.word i)⟩, rfl, ?_, rfl, rfl, rfl, rfl, ?_⟩
    · rw [Snapshot.bytes, List.length_reverse]
      exact saved
    · intro i used
      have there : i < s.context.nesting.reverse.length := by
        have count := (Context.count_toNat s.context.nesting.length (by rwa [← depth])).1
        rw [List.length_reverse]
        exact count ▸ used
      dsimp only [Snapshot.record]
      rw [List.getD_eq_getElem?_getD, List.getElem?_eq_getElem there]
      rfl
  · intro large
    rw [s.save_written written, s.context.save_of_lt (by rwa [← depth])]
    refine ⟨rfl, if_neg ?_⟩
    rw [Context.bytesFor_le_iff]
    exact Nat.not_le.mpr large

end Scanner
end Ucode.Template

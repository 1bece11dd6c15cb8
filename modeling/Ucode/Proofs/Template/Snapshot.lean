import Ucode.Template.Snapshot

/-!
# Snapshots bring contexts back

A context with a snapshot is the context that its snapshot describes, whoever restores it. One whose placeholders nest too
deeply has no snapshot, and restoring it changes nothing.
-/
namespace Ucode.Template.Context

theorem count_toNat (n : Nat) (small : n ≤ 125) : n.toUInt64.toNat = n ∧ (n.toUInt64 * 8).toNat = n * 8 := by
  have count : n.toUInt64.toNat = n := by
    rw [Nat.toUInt64_eq, UInt64.toNat_ofNat']
    exact Nat.mod_eq_of_lt (by omega)
  refine ⟨count, ?_⟩
  rw [UInt64.toNat_mul, count]
  exact Nat.mod_eq_of_lt (by simp; omega)

theorem bytesFor_le_iff (n : Nat) : Snapshot.bytesFor n ≤ Snapshot.maxBytes ↔ n ≤ 125 := by
  unfold Snapshot.bytesFor Snapshot.headerBytes Snapshot.wordBytes Snapshot.maxBytes
  omega

theorem save_of_le (c : Context) (small : c.nesting.length ≤ 125) :
    c.save = some ⟨c.mode, c.block, c.semicolon, c.nesting.length.toUInt64, c.nesting.reverse⟩ := by
  unfold save
  rw [if_pos ((bytesFor_le_iff _).mpr small)]

theorem save_of_lt (c : Context) (large : 125 < c.nesting.length) : c.save = none := by
  unfold save
  rw [if_neg]
  intro fits
  exact absurd ((bytesFor_le_iff _).mp fits) (by omega)

/-- The record of a context, when its placeholders do not nest too deeply, has all the words that it says it has. -/
theorem record_fits (c : Context) (small : c.nesting.length ≤ 125) :
    let record : Snapshot := ⟨c.mode, c.block, c.semicolon, c.nesting.length.toUInt64, c.nesting.reverse⟩
    record.bytes = 24 + 8 * c.nesting.length ∧ record.fits record.bytes = true ∧
      record.count.toNat = record.words.length := by
  obtain ⟨count, product⟩ := count_toNat c.nesting.length small
  intro record
  have bytes : record.bytes = 24 + 8 * c.nesting.length := by
    simp [record, Snapshot.bytes, Snapshot.bytesFor, Snapshot.headerBytes, Snapshot.wordBytes]
  refine ⟨bytes, ?_, ?_⟩
  · rw [bytes]
    simp [record, Snapshot.fits, Snapshot.headerBytes, product]
    omega
  · rw [count, List.length_reverse]

theorem resume_save_of_le (c saved : Context) (small : saved.nesting.length ≤ 125) : c.resume saved.save = saved := by
  obtain ⟨_, fits, count⟩ := record_fits saved small
  -- A snapshot holds the nesting from the outside to the inside.
  rw [save_of_le saved small, resume, restore, if_pos fits, count, List.take_length, List.reverse_reverse]

theorem resume_save_of_lt (c saved : Context) (large : 125 < saved.nesting.length) : c.resume saved.save = c := by
  rw [save_of_lt saved large, resume]

/-- Restoring what was saved gives the saved context or changes nothing. -/
theorem resume_save (c saved : Context) : c.resume saved.save = saved ∨ c.resume saved.save = c := by
  rcases Nat.lt_or_ge 125 saved.nesting.length with large | small
  · exact Or.inr (resume_save_of_lt c saved large)
  · exact Or.inl (resume_save_of_le c saved small)

end Ucode.Template.Context

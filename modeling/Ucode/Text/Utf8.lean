import Ucode.Text.CodePoint

/-!
# Decoding bytes

A source is a byte sequence in UTF-8. Where no well-formed sequence begins, the byte is taken alone as an ill-formed
code point, so every source decodes, and the widths of the code points add up to its length.
-/
namespace Ucode.Utf8

/-- A byte that can stand behind the first one of a sequence. -/
def isTrail (b : Nat) : Bool := 0x80 ≤ b && b ≤ 0xBF

/-- The least and the greatest second byte behind a first one. They leave out the overlong forms, the surrogates
and what lies above the last code point. -/
def secondRange (lead : Nat) : Nat × Nat :=
  if lead = 0xE0 then (0xA0, 0xBF)
  else if lead = 0xED then (0x80, 0x9F)
  else if lead = 0xF0 then (0x90, 0xBF)
  else if lead = 0xF4 then (0x80, 0x8F)
  else (0x80, 0xBF)

/-- Whether a byte can stand second behind a first one. -/
def isSecond (lead b : Nat) : Bool := (secondRange lead).1 ≤ b && b ≤ (secondRange lead).2

/-- The code point of the sequence that begins with a byte, and how many bytes follow that byte in it. -/
def sequence (lead : Nat) (rest : List UInt8) : CodePoint × Nat :=
  if lead < 0x80 then (lead, 0)
  else if lead < 0xC2 ∨ 0xF4 < lead then (CodePoint.illFormed, 0)
  else if lead < 0xE0 then
    match rest with
    | b :: _ => if isSecond lead b.toNat then ((lead % 32) * 64 + b.toNat % 64, 1) else (CodePoint.illFormed, 0)
    | [] => (CodePoint.illFormed, 0)
  else if lead < 0xF0 then
    match rest with
    | b :: c :: _ =>
      if isSecond lead b.toNat ∧ isTrail c.toNat then
        (((lead % 16) * 64 + b.toNat % 64) * 64 + c.toNat % 64, 2)
      else (CodePoint.illFormed, 0)
    | _ => (CodePoint.illFormed, 0)
  else
    match rest with
    | b :: c :: d :: _ =>
      if isSecond lead b.toNat ∧ isTrail c.toNat ∧ isTrail d.toNat then
        ((((lead % 8) * 64 + b.toNat % 64) * 64 + c.toNat % 64) * 64 + d.toNat % 64, 3)
      else (CodePoint.illFormed, 0)
    | _ => (CodePoint.illFormed, 0)

/-- The code points of a byte sequence whose first `owed` bytes belong to a code point that was decoded. -/
def decodeFrom : Nat → List UInt8 → List CodePoint
  | _, [] => []
  | owed + 1, _ :: rest => decodeFrom owed rest
  | 0, lead :: rest =>
    let (c, trail) := sequence lead.toNat rest
    c :: decodeFrom trail rest

/-- The code points of a byte sequence. -/
def decode (bytes : List UInt8) : List CodePoint := decodeFrom 0 bytes

private theorem width_of_bounds {c : Nat} :
    (c < 0x80 → CodePoint.width c = 1) ∧ (0x80 ≤ c → c < 0x800 → CodePoint.width c = 2) ∧
      (0x800 ≤ c → c < 0x10000 → CodePoint.width c = 3) ∧ (0x10000 ≤ c → c < 0x110000 → CodePoint.width c = 4) := by
  unfold CodePoint.width
  refine ⟨?_, ?_, ?_, ?_⟩ <;> intros <;> repeat' split
  all_goals first | rfl | (unfold CodePoint at *; omega)

private theorem bounds_of_isSecond {lead b : Nat} (second : isSecond lead b = true) :
    0x80 ≤ b ∧ b ≤ 0xBF ∧ (lead = 0xE0 → 0xA0 ≤ b) ∧ (lead = 0xF0 → 0x90 ≤ b) ∧ (lead = 0xF4 → b ≤ 0x8F) := by
  unfold isSecond secondRange at second
  repeat' split at second
  all_goals
    simp only [Bool.and_eq_true, decide_eq_true_eq] at second
    omega

/-- A sequence is as long as its code point is wide, and lies within the bytes. -/
theorem width_sequence (lead : Nat) (rest : List UInt8) :
    (sequence lead rest).1.width = (sequence lead rest).2 + 1 ∧ (sequence lead rest).2 ≤ rest.length := by
  have bad : CodePoint.width CodePoint.illFormed = 1 := rfl
  unfold sequence CodePoint
  split
  · next ascii => exact ⟨width_of_bounds.1 ascii, Nat.zero_le _⟩
  split
  · exact ⟨bad, Nat.zero_le _⟩
  next notAscii range =>
  split
  · next two =>
    split
    · next b tail =>
      split
      · next second =>
        have := bounds_of_isSecond second
        exact ⟨width_of_bounds.2.1 (by omega) (by omega), by simp⟩
      · exact ⟨bad, Nat.zero_le _⟩
    · exact ⟨bad, Nat.zero_le _⟩
  next notTwo =>
  split
  · next three =>
    split
    · next b c tail =>
      split
      · next valid =>
        have := bounds_of_isSecond valid.1
        exact ⟨width_of_bounds.2.2.1 (by omega) (by omega), by simp⟩
      · exact ⟨bad, Nat.zero_le _⟩
    · exact ⟨bad, Nat.zero_le _⟩
  next notThree =>
  split
  · next b c d tail =>
    split
    · next valid =>
      have := bounds_of_isSecond valid.1
      exact ⟨width_of_bounds.2.2.2 (by omega) (by omega), by simp⟩
    · exact ⟨bad, Nat.zero_le _⟩
  · exact ⟨bad, Nat.zero_le _⟩

private theorem widths_decodeFrom (bytes : List UInt8) (owed : Nat) (enough : owed ≤ bytes.length) :
    CodePoint.widths (decodeFrom owed bytes) + owed = bytes.length := by
  induction bytes generalizing owed with
  | nil =>
    cases owed with
    | zero => rfl
    | succ owed => simp at enough
  | cons lead rest ih =>
    cases owed with
    | zero =>
      obtain ⟨width, within⟩ := width_sequence lead.toNat rest
      have := ih _ within
      simp only [decodeFrom, CodePoint.widths, List.length_cons, width]
      omega
    | succ owed =>
      have := ih owed (by simpa using enough)
      simp only [decodeFrom, List.length_cons]
      omega

/-- No byte is lost: the code points are together as wide as the bytes are many. -/
theorem widths_decode (bytes : List UInt8) : CodePoint.widths (decode bytes) = bytes.length :=
  widths_decodeFrom bytes 0 (Nat.zero_le _)

end Ucode.Utf8

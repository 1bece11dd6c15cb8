import Ucode.Text.CodePoint

/-!
# Extents

An extent measures a piece of text: its code points, its bytes, the rows it begins and the bytes of its last row. Read
as a place it is what stands before that place, so that rows and columns count from zero. Only a line
feed begins a row. Extents of pieces add up to the extent of their concatenation.
-/
namespace Ucode

/-- The measure of a piece of text, or a place in it. -/
structure Extent where
  points : Nat
  bytes : Nat
  rows : Nat
  column : Nat
  deriving DecidableEq, Repr, Inhabited

namespace Extent

/-- The extent of the empty text. -/
def zero : Extent := ⟨0, 0, 0, 0⟩

/-- The extent of one code point. -/
def ofPoint (c : CodePoint) : Extent :=
  if c = '\n' then ⟨1, 1, 1, 0⟩ else ⟨1, c.width, 0, c.width⟩

/-- The extent of two pieces, the second behind the first. -/
def add (a b : Extent) : Extent :=
  ⟨a.points + b.points, a.bytes + b.bytes, a.rows + b.rows, if b.rows = 0 then a.column + b.column else b.column⟩

instance : Add Extent := ⟨add⟩

/-- The extent of a text. -/
def ofText (text : List CodePoint) : Extent := text.foldl (fun e c => e + ofPoint c) zero

theorem add_def (a b : Extent) : a + b =
    ⟨a.points + b.points, a.bytes + b.bytes, a.rows + b.rows, if b.rows = 0 then a.column + b.column else b.column⟩ :=
  rfl

theorem add_zero (a : Extent) : a + zero = a := by simp [add_def, zero]

theorem zero_add (a : Extent) : zero + a = a := by simp [add_def, zero]

theorem add_assoc (a b c : Extent) : a + b + c = a + (b + c) := by
  by_cases hb : b.rows = 0 <;> by_cases hc : c.rows = 0 <;> simp [add_def, hb, hc, Nat.add_assoc]

private theorem foldl_ofPoint (text : List CodePoint) (e : Extent) :
    text.foldl (fun e c => e + ofPoint c) e = e + ofText text := by
  induction text generalizing e with
  | nil => exact (add_zero e).symm
  | cons c rest ih =>
    simp only [ofText, List.foldl_cons]
    rw [ih, ih (zero + ofPoint c), zero_add, add_assoc]

@[simp] theorem ofText_nil : ofText [] = zero := rfl

theorem ofText_cons (c : CodePoint) (rest : List CodePoint) : ofText (c :: rest) = ofPoint c + ofText rest := by
  rw [ofText, List.foldl_cons, foldl_ofPoint, zero_add]

/-- The extents of two pieces of text add up to that of the whole. -/
theorem ofText_append (front rest : List CodePoint) : ofText (front ++ rest) = ofText front + ofText rest := by
  rw [ofText, List.foldl_append, foldl_ofPoint]
  rfl

/-- The points of an extent count the code points. -/
theorem points_ofText (text : List CodePoint) : (ofText text).points = text.length := by
  induction text with
  | nil => rfl
  | cons c rest ih =>
    rw [ofText_cons, add_def, List.length_cons, ← ih, Nat.add_comm]
    simp only [ofPoint]
    split <;> rfl

/-- The bytes of an extent are those of the code points. -/
theorem bytes_ofText (text : List CodePoint) : (ofText text).bytes = CodePoint.widths text := by
  induction text with
  | nil => rfl
  | cons c rest ih =>
    rw [ofText_cons, add_def, CodePoint.widths, ← ih]
    simp only [ofPoint]
    split
    · next feed => subst feed; rfl
    · rfl

end Extent
end Ucode

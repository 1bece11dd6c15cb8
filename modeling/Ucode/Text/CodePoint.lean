/-!
# Code points

Every text of this library is a list of code points: the characters of a string, or what a byte sequence
decodes to. A byte that begins no well-formed sequence is a code point of its own, `CodePoint.illFormed`.
Reading past the end gives `CodePoint.nul`, so a reader that has to tell the two apart looks at the list.
-/
namespace Ucode

/-- A Unicode code point, or `CodePoint.illFormed`. -/
abbrev CodePoint := Nat

instance : Coe Char CodePoint := ⟨Char.toNat⟩

namespace CodePoint

/-- What stands for the end of a text, and what the NUL character itself reads as. -/
def nul : CodePoint := 0

/-- A byte that belongs to no well-formed sequence. It lies above every code point, and its low byte is 255. -/
def illFormed : CodePoint := 4294967295

/-- The mark that may open a text to show its encoding. -/
def byteOrderMark : CodePoint := 0xFEFF

/-- The bytes that the code point takes in a source; an ill-formed byte is one. -/
def width (c : CodePoint) : Nat :=
  if c < 0x80 then 1 else if c < 0x800 then 2 else if c < 0x10000 then 3
  else if c < 0x110000 then 4 else 1

/-- The bytes that a text takes. -/
def widths : List CodePoint → Nat
  | [] => 0
  | c :: rest => c.width + widths rest

/-- White space between tokens: tabulator, line feed, vertical tabulator, form feed, carriage return, space. -/
def isBlank (c : CodePoint) : Bool := (9 ≤ c && c ≤ 13) || c == 32

/-- Membership in a set of ASCII characters as the template reader tests it: by the low byte alone, and
a low byte of zero is in every set. Only NUL itself is never a member. -/
def isAmong (members : List Char) (c : CodePoint) : Bool :=
  c != nul && (c % 256 == 0 || members.any (fun m => c % 256 == m.toNat))

/-- The characters of a string as code points. -/
def ofString (s : String) : List CodePoint := s.toList.map Char.toNat

end CodePoint
end Ucode

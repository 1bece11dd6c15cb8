import Ucode.Template.Memory

/-!
# Scanners and records as numbers

A snapshot lies in memory as a record of numbers, and so does a scanner: nothing makes sure that the number for a mode, a block or
the flag stands for one, or that the count of a record goes with the bytes that are there. Restoring takes the numbers as they are.
It looks at nothing before the length is tested, and at no word that does not end within the length.
-/
namespace Ucode.Template

namespace Mode

/-- The number of a mode. -/
def number : Mode → UInt32
  | initial => 0 | text => 1 | comment => 2 | expressionTag => 3 | statementTag => 4 | code => 5 | placeholder => 6
  | template => 7 | finished => 8

end Mode

namespace Block

/-- The number of a block. -/
def number : Block → UInt32
  | none => 0 | expression => 1 | statements => 2 | comment => 3

end Block

/-- A record of numbers: a head, and behind it as much memory as one may look at. -/
structure Record where
  mode : UInt32
  block : UInt32
  semicolon : UInt8
  /-- The number of words that belong to the record, as it says. -/
  count : UInt64
  word : Nat → UInt64

namespace Record

/-- Whether so many bytes hold the head and all words that the record says it has. Differences and products are those of machine
words. -/
def fits (r : Record) (length : UInt32) : Bool :=
  24 ≤ length && r.count * 8 ≤ length.toUInt64 - 24

/-- The words that end within so many bytes. -/
def within (r : Record) (length : UInt32) : List Nat :=
  (List.range ((length.toNat - Snapshot.headerBytes) / Snapshot.wordBytes)).map fun i => (r.word i).toNat

end Record

/-- A scanner of numbers, with the words that hold its nesting. -/
structure Registers where
  mode : UInt32
  block : UInt32
  semicolon : UInt8
  store : Store
  deriving DecidableEq, Repr

namespace Registers

/-- Takes over a record of so many bytes, unless it is cut short. Without the words that the record says it has there is no
outcome. -/
def restore (s : Registers) (r : Record) (length : UInt32) : Option Registers :=
  if r.fits length then do
    let store ← s.store.restore (r.within length) r.count.toNat
    return ⟨r.mode, r.block, r.semicolon, store⟩
  else some s

/-- Writes the scanner over a record, and tells how many bytes it takes. Nothing is written if that is too much. -/
def save (s : Registers) (old : Record) : Option (Nat × Record) :=
  if Snapshot.bytesFor s.store.depth ≤ Snapshot.maxBytes then do
    let words ← s.store.dump s.store.depth
    let word (i : Nat) : UInt64 := (words[i]?.map Nat.toUInt64).getD (old.word i)
    return (Snapshot.bytesFor s.store.depth, ⟨s.mode, s.block, s.semicolon, s.store.depth.toUInt64, word⟩)
  else some (0, old)

end Registers

/-- The record that a snapshot lies in memory as. -/
def Snapshot.record (s : Snapshot) : Record :=
  ⟨s.mode.number, s.block.number, s.semicolon.toUInt8, s.count, fun i => (s.words.getD i 0).toUInt64⟩

/-- A scanner as numbers. -/
def Scanner.registers (s : Scanner) : Registers :=
  ⟨s.mode.number, s.block.number, s.semicolon.toUInt8, s.store⟩

end Ucode.Template

import Ucode.Template.Context

/-!
# Snapshots of a context

A snapshot is the fixed-size record in which a token carries the context behind it. It is laid out in words of
eight bytes: three for the mode, the block, the semicolon flag and the number of open placeholders, and
then one for each placeholder, the outermost first. A context whose snapshot would not fit has none, and
restoring none changes nothing.
-/
namespace Ucode.Template

/-- The record of a context. -/
structure Snapshot where
  mode : Mode
  block : Block
  semicolon : Bool
  /-- The number of nesting words that the record says it has. -/
  count : UInt64
  /-- The nesting words that are there. -/
  words : List Nat
  deriving DecidableEq, Repr, Inhabited

namespace Snapshot

/-- Bytes of a record without nesting words. -/
def headerBytes : Nat := 24

/-- Bytes of one nesting word. -/
def wordBytes : Nat := 8

/-- The largest record that a token can carry. -/
def maxBytes : Nat := 1024

/-- Bytes of a record with so many nesting words. -/
def bytesFor (depth : Nat) : Nat := headerBytes + wordBytes * depth

/-- Bytes of the record. -/
def bytes (s : Snapshot) : Nat := bytesFor s.words.length

/-- Whether so many bytes hold all nesting words that the record says it has. The product is taken in machine
words. -/
def fits (s : Snapshot) (length : Nat) : Bool :=
  headerBytes ≤ length && (s.count * 8).toNat ≤ length - headerBytes

end Snapshot

namespace Context

/-- The snapshot of a context, unless it would be too large. -/
def save (c : Context) : Option Snapshot :=
  if Snapshot.bytesFor c.nesting.length ≤ Snapshot.maxBytes then
    some ⟨c.mode, c.block, c.semicolon, c.nesting.length.toUInt64, c.nesting.reverse⟩
  else none

/-- The context that the first `length` bytes of a snapshot describe. A record that is cut short is ignored. -/
def restore (c : Context) (s : Snapshot) (length : Nat) : Context :=
  if s.fits length then ⟨s.mode, s.block, s.semicolon, (s.words.take s.count.toNat).reverse⟩ else c

/-- The context that a whole snapshot describes, if there is one. -/
def resume (c : Context) : Option Snapshot → Context
  | none => c
  | some s => c.restore s s.bytes

end Context
end Ucode.Template

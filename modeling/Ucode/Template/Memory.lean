import Ucode.Template.Scan
import Ucode.Template.Snapshot

/-!
# The words that hold the nesting

A `Context` says how the braces nest. A `Scanner` holds this in a block of words: one for each placeholder that is open,
the outermost first, and behind them perhaps words of placeholders that were closed. Every access to a word is
checked here, and so is every count that goes down: what reaches beyond the block, reads a word that was never
written or counts below zero has no outcome.
-/
namespace Ucode.Template

/-- A block of words, of which the first `depth` are in use. A word that was not written yet holds nothing. -/
structure Store where
  words : List (Option Nat)
  depth : Nat
  deriving DecidableEq, Repr

namespace Store

/-- No words at all. -/
def empty : Store := ⟨[], 0⟩

/-- The counts of the words in use, the innermost first. -/
def nesting (s : Store) : List Nat := ((s.words.take s.depth).filterMap id).reverse

/-- One less, which zero does not have. -/
def less? : Nat → Option Nat
  | 0 => none
  | n + 1 => some n

/-- What a word of the block holds. -/
def read (s : Store) (i : Nat) : Option Nat := s.words[i]?.join

/-- Puts a count into a word of the block. -/
def write (s : Store) (i count : Nat) : Option Store :=
  if i < s.words.length then some { s with words := s.words.set i (some count) } else none

/-- A block of another size. Words that were there before stay, new ones hold nothing. -/
def resize (s : Store) (size : Nat) : Store :=
  { s with words := s.words.take size ++ List.replicate (size - s.words.length) none }

/-- A brace opens; it counts only inside a placeholder. -/
def openBrace (s : Store) : Option Store :=
  match s.depth with
  | 0 => some s
  | last + 1 => do
    let count ← s.read last
    s.write last (count + 1)

/-- A brace closes: the innermost one open in a placeholder, or else the placeholder itself. -/
def closeBrace (s : Store) : Option (Token × Store) :=
  match s.depth with
  | 0 => some (.braceClose, s)
  | last + 1 => do
    let count ← s.read last
    if count = 0 then
      let depth ← less? s.depth
      return (.placeholderClose, { s with depth := depth })
    else
      let fewer ← less? count
      let written ← s.write last fewer
      return (.braceClose, written)

/-- A placeholder opens; its word comes behind those in use. -/
def openPlaceholder (s : Store) : Option Store := do
  let written ← (s.resize (s.depth + 1)).write s.depth 0
  return { written with depth := s.depth + 1 }

/-- A brace closes that is read as a given token. -/
def closeBraceAs (s : Store) (token : Token) : Option Store := do
  let (found, after) ← s.closeBrace
  if found = token then return after else none

/-- What a token, if one is read, does to the words. -/
def take (s : Store) : Option Token → Option Store
  | some .braceOpen => s.openBrace
  | some .braceClose => s.closeBraceAs .braceClose
  | some .placeholderClose => s.closeBraceAs .placeholderClose
  | some .placeholderOpen => s.openPlaceholder
  | _ => some s

/-- Copies the first words of the block, one by one. -/
def dump (s : Store) : Nat → Option (List Nat)
  | 0 => some []
  | n + 1 => do
    let front ← s.dump n
    let count ← s.read n
    return front ++ [count]

/-- Copies the first words of a record into the block, one by one. -/
def load (s : Store) (record : List Nat) : Nat → Option Store
  | 0 => some s
  | n + 1 => do
    let front ← s.load record n
    let count ← record[n]?
    front.write n count

/-- Takes over so many words of a record. Without any, the block stays as it is. -/
def restore (s : Store) (record : List Nat) (count : Nat) : Option Store :=
  if count = 0 then some { s with depth := 0 }
  else do
    let loaded ← (s.resize count).load record count
    return { loaded with depth := count }

end Store

namespace Context

/-- The token that a scan comes upon, whether or not it is accepted. A semicolon, written or left out, comes before any
other token. -/
def meets (valid : Token → Bool) (context : Context) (text : List CodePoint) : Option Token :=
  let c := context.start valid
  if c.block = .statements ∧ valid .semicolon then
    let rest := text.dropWhile CodePoint.isBlank
    match c.scanSemicolon rest with
    | some _ => none
    | none => (c.scanAny rest).token
  else (c.scanAny text).token

end Context

/-- A scanner with the words that hold its nesting. -/
structure Scanner where
  mode : Mode
  block : Block
  semicolon : Bool
  store : Store
  deriving DecidableEq, Repr

namespace Scanner

/-- The scanner that nothing was read with. It holds no words. -/
def fresh : Scanner := ⟨.initial, .none, false, .empty⟩

/-- The context that a scanner holds. -/
def context (s : Scanner) : Context := ⟨s.mode, s.block, s.semicolon, s.store.nesting⟩

/-- Scans as the context does. The token that it comes upon changes the words, also when it is not accepted. -/
def scan (valid : Token → Bool) (s : Scanner) (text : List CodePoint) : Option (Scan × Scanner) := do
  let outcome := s.context.scan valid text
  let store ← s.store.take (s.context.meets valid text)
  return (outcome, ⟨outcome.context.mode, outcome.context.block, outcome.context.semicolon, store⟩)

/-- The snapshot of a scanner, unless it would be too large. -/
def save (s : Scanner) : Option (Option Snapshot) :=
  if Snapshot.bytesFor s.store.depth ≤ Snapshot.maxBytes then do
    let words ← s.store.dump s.store.depth
    return some ⟨s.mode, s.block, s.semicolon, s.store.depth.toUInt64, words⟩
  else some none

/-- The scanner that the first `length` bytes of a snapshot describe. A record that is cut short is ignored. -/
def restore (s : Scanner) (record : Snapshot) (length : Nat) : Option Scanner :=
  if record.fits length then do
    let store ← s.store.restore record.words record.count.toNat
    return ⟨record.mode, record.block, record.semicolon, store⟩
  else some s

/-- The scanner that a whole snapshot describes, if there is one. -/
def resume (s : Scanner) : Option Snapshot → Option Scanner
  | none => some s
  | some record => s.restore record record.bytes

end Scanner
end Ucode.Template

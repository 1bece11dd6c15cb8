import Ucode.Grammar.Symbol
import Ucode.Text.CodePoint

/-!
# Lexical machines

A machine reads a text from one state to the next and remembers where it last stood in a state that accepts. It stops
where no arrow leads on, so what it has found is the longest beginning of the text that it accepts, and it may have read
further than that.
-/
namespace Ucode.Code

/-- A code point that can start a word: an ASCII letter or an underscore. -/
def isLetter (c : CodePoint) : Bool :=
  ('A' ≤ c && c ≤ 'Z') || c == '_' || ('a' ≤ c && c ≤ 'z')

/-- A code point that can go on in a word. -/
def isWordPart (c : CodePoint) : Bool := isLetter c || ('0' ≤ c && c ≤ '9')

/-- Any code point but NUL. -/
def isWritten (c : CodePoint) : Bool := c != CodePoint.nul

/-- The characters of one line. -/
def isInLine (c : CodePoint) : Bool := isWritten c && c != '\n'

/-- The characters of a line comment: a carriage return and the two Unicode separators end it as well. -/
def isInComment (c : CodePoint) : Bool :=
  isInLine c && c != '\r' && c != 0x2028 && c != 0x2029

/-- A flag of a regular expression. -/
def isFlag (c : CodePoint) : Bool := c == 'g' || c == 'i' || c == 's'

/-- What an arrow asks of a code point. -/
inductive Label where
  | only (c : Char)
  | letter
  | wordPart
  | written
  | inLine
  | inComment
  | flag
  deriving DecidableEq, Repr

/-- Whether a code point is what an arrow asks for. -/
def Label.fits : Label → CodePoint → Bool
  | only d, c => c == d.toNat
  | letter, c => isLetter c
  | wordPart, c => isWordPart c
  | written, c => isWritten c
  | inLine, c => isInLine c
  | inComment, c => isInComment c
  | flag, c => isFlag c

/-- A state of a machine. -/
structure State where
  /-- The symbol of what was read, if it can end here. -/
  accepts : Option Symbol
  /-- Where a code point leads. The first arrow that it fits counts. -/
  arrows : List (Label × Nat)
  /-- Whether blanks are passed over; what is read then starts behind them. -/
  skips : Bool
  /-- The state at the end of the text, if it is another one. -/
  atEnd : Option Nat
  deriving DecidableEq, Repr, Inhabited

namespace State

/-- A state on the way, with its arrows for single characters and those for others. -/
def going (marks : List (Char × Nat) := []) (others : List (Label × Nat) := []) : State :=
  ⟨none, marks.map (fun (c, q) => (.only c, q)) ++ others, false, none⟩

/-- A state in which what was read can end. -/
def ending (symbol : Symbol) (marks : List (Char × Nat) := []) (others : List (Label × Nat) := []) : State :=
  { going marks others with accepts := some symbol }

/-- A state to start from, which passes over blanks. -/
def starting (atEnd : Option Nat) (marks : List (Char × Nat)) (others : List (Label × Nat) := []) : State :=
  { going marks others with skips := true, atEnd := atEnd }

/-- Where a code point leads. -/
def next? (s : State) (c : CodePoint) : Option Nat := (s.arrows.find? (·.1.fits c)).map (·.2)

end State

/-- What was found in a text; the positions count code points. -/
structure Reading where
  symbol : Symbol
  /-- Where it starts, behind the blanks. -/
  start : Nat
  stop : Nat
  deriving DecidableEq, Repr

/-- How far a machine has come. -/
structure Progress where
  /-- Where what is read starts. -/
  start : Nat
  /-- The place up to which the text was read. -/
  place : Nat
  /-- What was last accepted, and where it ends. -/
  found : Option (Symbol × Nat)
  deriving DecidableEq, Repr

namespace Progress

/-- Nothing was read yet. -/
def none : Progress := ⟨0, 0, .none⟩

/-- In a state that accepts, this is what was found. -/
def note (p : Progress) (accepts : Option Symbol) : Progress :=
  match accepts with
  | some symbol => { p with found := some (symbol, p.place) }
  | .none => p

/-- One code point further. -/
def step (p : Progress) : Progress := { p with place := p.place + 1 }

/-- One blank further. -/
def skip (p : Progress) : Progress := { p with start := p.place + 1, place := p.place + 1 }

/-- What was found in the end. -/
def reading? (p : Progress) : Option Reading := p.found.map (fun (symbol, stop) => ⟨symbol, p.start, stop⟩)

end Progress

/-- The states of a machine by number. -/
structure Machine where
  states : Array State

namespace Machine

/-- The state of a number. A number that has none stands for a state that leads nowhere. -/
def state (m : Machine) (q : Nat) : State := m.states.getD q default

/-- Reads a text from a state on, as far as arrows lead. -/
def run (m : Machine) : Nat → Progress → List CodePoint → Progress
  | q, p, [] =>
    let p := p.note (m.state q).accepts
    match (m.state q).atEnd with
    | some last => p.note (m.state last).accepts
    | none => p
  | q, p, c :: rest =>
    let p := p.note (m.state q).accepts
    if (m.state q).skips && c.isBlank then m.run q p.skip rest
    else
      match (m.state q).next? c with
      | some next => m.run next p.step rest
      | none => p

end Machine
end Ucode.Code

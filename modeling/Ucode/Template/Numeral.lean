import Ucode.Text.CodePoint
import Ucode.Text.Digit

/-!
# Numerals

A numeral is a number with an optional radix mark, or a decimal with a fraction or an exponent. Its end is where
the reader stops, except that an exponent without digits ends behind its letter. Digits are told by their
low byte (`CodePoint.isAmong`), and a NUL that stands where a digit or a letter could is read along.
-/
namespace Ucode.Template.Numeral

/-- Reads one member of a set if it stands next, and passes over a NUL without finding one. -/
def tryOne (members : List Char) : List CodePoint → Bool × List CodePoint
  | [] => (false, [])
  | c :: rest =>
    if CodePoint.isAmong members c then (true, rest)
    else if c = CodePoint.nul then (false, rest)
    else (false, c :: rest)

/-- Reads as many members of a set as there are and counts them. A NUL behind them is passed over. -/
def run (members : List Char) : List CodePoint → Nat × List CodePoint
  | [] => (0, [])
  | c :: rest =>
    if CodePoint.isAmong members c then
      let (n, behind) := run members rest
      (n + 1, behind)
    else if c = CodePoint.nul then (0, rest)
    else (0, c :: rest)

/-- The digits that a radix mark behind a leading zero allows, if there is a mark. -/
def radix (first : CodePoint) (text : List CodePoint) : Option (List Char) × List CodePoint :=
  if first = '0' then
    let (binary, rest) := tryOne ['b', 'B'] text
    if binary then (some Digit.binary, rest)
    else
      let (octal, rest) := tryOne ['o', 'O'] rest
      if octal then (some Digit.octal, rest)
      else
        let (hex, rest) := tryOne ['x', 'X'] rest
        if hex then (some Digit.hex, rest) else (none, rest)
  else (none, text)

/-- The end of a numeral and its kind, as lengths in code points. -/
structure Reading where
  double : Bool
  stop : Nat
  read : Nat
  deriving DecidableEq, Repr

/-- The fraction: whether there is one, whether an exponent may follow, and the rest. -/
def fraction (text : List CodePoint) : Bool × Bool × List CodePoint :=
  match text with
  | [] => (false, true, [])
  | c :: rest =>
    if c = '.' then
      let (n, behind) := run Digit.decimal rest
      (true, n != 0, behind)
    else (false, true, c :: rest)

/-- The numeral whose first digit was read and that goes on with `text`. -/
def ofDigits (first : CodePoint) (text : List CodePoint) : Reading :=
  let readTo (rest : List CodePoint) : Nat := text.length - rest.length
  match radix first text with
  | (some digits, rest) =>
    let (_, rest) := run digits rest
    ⟨false, readTo rest, readTo rest⟩
  | (none, rest) =>
    let (_, rest) := run Digit.decimal rest
    let (fractional, exponentAllowed, rest) := fraction rest
    if exponentAllowed then
      let (exponential, behindLetter) := tryOne ['e', 'E'] rest
      if exponential then
        let (_, behindSign) := tryOne ['+', '-'] behindLetter
        let (digits, behind) := run Digit.decimal behindSign
        ⟨true, if digits = 0 then readTo behindLetter else readTo behindSign + digits, readTo behind⟩
      else ⟨fractional, readTo behindLetter, readTo behindLetter⟩
    else ⟨fractional, readTo rest, readTo rest⟩

end Ucode.Template.Numeral

import Ucode.Text.CodePoint
import Ucode.Text.Digit

/-!
# Literals

Strings, template literals and regular expressions are read as a row of elements up to a terminator. An element
is an escape sequence, in a regular expression also a character class, or any other single code point.
A template literal also ends, for the time being, before a placeholder. Everything here is given as lengths
in code points.
-/
namespace Ucode.Template.Literal

/-- The delimiter of a template literal. -/
def templateMark : CodePoint := '\x60'

/-- The delimiter of a regular expression. -/
def regexMark : CodePoint := '/'

/-- An escape that consists of a letter and so many hexadecimal digits; the text starts behind the letter. -/
def hexEscape (digits : Nat) (text : List CodePoint) : Option Nat :=
  let found := text.take digits
  if found.length = digits ∧ found.all (CodePoint.isAmong Digit.hex) then some (digits + 1) else none

/-- An escape of one to three octal digits. Its value may not exceed 255. A NUL that stands where a further
digit could is read along. -/
def octalEscape (text : List CodePoint) : Option Nat :=
  let found := (text.take 3).takeWhile (CodePoint.isAmong Digit.octal)
  let value := found.foldl (fun value c => value * 8 + (c - 48)) 0
  if 255 < value then none
  else if found.length < 3 ∧ (text.drop found.length).head? = some CodePoint.nul then some (found.length + 1)
  else some found.length

/-- The length of an escape sequence without its backslash, if it is complete. -/
def escapeLength (text : List CodePoint) : Option Nat :=
  match text with
  | [] => none
  | c :: rest =>
    if c = 'u' then hexEscape 4 rest
    else if c = 'x' then hexEscape 2 rest
    else if '0' ≤ c ∧ c ≤ '7' then octalEscape (c :: rest)
    else if c = CodePoint.nul then none
    else some 1

/-- The length of a character class from within, its closing bracket included. The first `owed` code points
belong to what was begun before them. -/
def classRest : Nat → List CodePoint → Option Nat
  | _, [] => none
  | owed + 1, _ :: rest => (classRest owed rest).map (· + 1)
  | 0, c :: rest =>
    if c = CodePoint.nul then none
    else if c = '\\' then
      match escapeLength rest with
      | none => none
      | some n => (classRest n rest).map (· + 1)
    else if c = ']' then some 1
    else (classRest 0 rest).map (· + 1)

/-- The length of a character class without its opening bracket. A bracket that would close it at once,
also behind a negation, is an ordinary member. -/
def classLength (text : List CodePoint) : Option Nat :=
  let negation := if text.head? = some (Char.toNat '^') then 1 else 0
  let bracket := if (text.drop negation).head? = some (Char.toNat ']') then 1 else 0
  classRest (negation + bracket) text

/-- Where a literal ends. -/
structure End where
  /-- The end of the token. -/
  stop : Nat
  /-- How far was read to find it. -/
  read : Nat
  /-- Whether the literal goes on behind a placeholder. -/
  placeholder : Bool
  deriving DecidableEq, Repr

/-- The same end seen from one code point earlier. -/
def End.succ (e : End) : End := ⟨e.stop + 1, e.read + 1, e.placeholder⟩

/-- The end of a literal from within. The first `owed` code points belong to an element begun before them. -/
def endFrom (delimiter : CodePoint) : Nat → List CodePoint → Option End
  | _, [] => none
  | owed + 1, _ :: rest => (endFrom delimiter owed rest).map End.succ
  | 0, c :: rest =>
    if c = CodePoint.nul then none
    else if delimiter = templateMark ∧ c = '$' then
      if rest.head? = some (Char.toNat '{') then some ⟨0, 2, true⟩
      else (endFrom delimiter 0 rest).map End.succ
    else if delimiter = regexMark ∧ c = '[' then
      match classLength rest with
      | none => none
      | some n => (endFrom delimiter n rest).map End.succ
    else if c = '\\' then
      match escapeLength rest with
      | none => none
      | some n => (endFrom delimiter n rest).map End.succ
    else if c = delimiter then some ⟨1, 1, false⟩
    else (endFrom delimiter 0 rest).map End.succ

/-- The end of a literal that starts behind its delimiter, or behind a placeholder, if it is terminated. -/
def end? (delimiter : CodePoint) (text : List CodePoint) : Option End := endFrom delimiter 0 text

end Ucode.Template.Literal

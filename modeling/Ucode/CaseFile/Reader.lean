import Ucode.Text.Line

/-!
# Case files

A case file is a list of cases: a name between two header lines, then the input up to a line of three hyphens, then
the tree that is expected for it. What stands before the first header is not read. `Case.readAll` reads a file line by
line and fails at the first block that is not complete.
-/
namespace Ucode

/-- One case: a source and the expression that its tree should have. -/
structure Case where
  name : List Char
  input : List Char
  expected : List Char
  deriving DecidableEq, Repr

namespace Case

/-- A line of at least three equals signs. -/
def isHeader (line : Line) : Bool := 3 ≤ line.length && line.all (· == '=')

/-- The line between the input and the expected tree. -/
def divider : Line := ['-', '-', '-']

/-- Why a file cannot be read. -/
inductive ReadError where
  /-- No name follows the header in a line. -/
  | noName (line : Nat)
  /-- No header follows the name behind the header in a line. -/
  | openHeader (line : Nat) (name : List Char)
  /-- The input of a case runs into the next header. -/
  | headerInInput (name : List Char)
  /-- The input of a case runs to the end of the file. -/
  | endInInput (name : List Char)
  deriving DecidableEq, Repr

/-- What is reported about a file that cannot be read. -/
def ReadError.message : ReadError → String
  | noName line => "line " ++ toString line ++ ": header without a test name"
  | openHeader line name => "line " ++ toString line ++ ": unterminated header for " ++ String.ofList name
  | headerInInput name => String.ofList name ++ ": next header reached before `---`"
  | endInInput name => String.ofList name ++ ": end of file reached before `---`"

/-- A case made of the lines between its headers and dividers. -/
def ofLines (name : Line) (input expected : List Line) : Case :=
  ⟨name, Line.trimFeeds (Line.join input) ++ ['\n'], Line.join expected⟩

/-- What the next line of a file belongs to. -/
inductive Section where
  /-- The text before the first header. -/
  | preamble
  /-- The name that follows the header in a line. -/
  | name (header : Nat)
  /-- The second header. -/
  | header (header : Nat) (name : Line)
  /-- The input, with what of it was read. -/
  | input (name : Line) (input : List Line)
  /-- The expected tree, with what of it was read. -/
  | expected (name : Line) (input expected : List Line)
  deriving DecidableEq, Repr

/-- The cases in the lines from a number on. -/
def readFrom : Section → Nat → List Line → Except ReadError (List Case)
  | .preamble, _, [] => .ok []
  | .name header, _, [] => .error (.noName header)
  | .header header name, _, [] => .error (.openHeader header name)
  | .input name _, _, [] => .error (.endInInput name)
  | .expected name input expected, _, [] => .ok [ofLines name input expected]
  | .preamble, number, line :: lines =>
    if isHeader line then readFrom (.name number) (number + 1) lines else readFrom .preamble (number + 1) lines
  | .name header, number, line :: lines =>
    if isHeader line then .error (.noName header) else readFrom (.header header line) (number + 1) lines
  | .header header name, number, line :: lines =>
    if isHeader line then readFrom (.input name []) (number + 1) lines else .error (.openHeader header name)
  | .input name input, number, line :: lines =>
    if line = divider then readFrom (.expected name input []) (number + 1) lines
    else if isHeader line then .error (.headerInInput name)
    else readFrom (.input name (input ++ [line])) (number + 1) lines
  | .expected name input expected, number, line :: lines =>
    if isHeader line then (readFrom (.name number) (number + 1) lines).map (ofLines name input expected :: ·)
    else readFrom (.expected name input (expected ++ [line])) (number + 1) lines

/-- The cases of a file. -/
def readAll (text : List Char) : Except ReadError (List Case) := readFrom .preamble 1 (Line.split text)

end Case
end Ucode

import Ucode.CaseFile.Reader
import Ucode.Parse.Run
import Ucode.Tree.Expression

/-!
# Comparing expressions

Two expressions of trees are the same if they have the same words. A parenthesis is a word by itself; other words are
parted by white space.
-/
namespace Ucode

namespace Case

/-- A text with a space before and behind each such mark in it. -/
def setApart (mark : Char) (text : List Char) : List Char :=
  text.flatMap (fun c => if c = mark then [' ', c, ' '] else [c])

/-- The words of an expression. -/
def words (text : List Char) : List (List Char) := Line.words (setApart ')' (setApart '(' text))

/-- The expression of the tree of a case's input. -/
def actual (c : Case) : String := (parse (CodePoint.ofString (String.ofList c.input))).expression

/-- Whether a case has the tree that is expected. -/
def holds (c : Case) : Bool := words c.actual.toList == words c.expected

end Case
end Ucode

/-!
# Lines and words

A line ends before a line feed, and a carriage return right before the line feed belongs to the end too. The last
line need not have an end. Words are parted by white space as Unicode has it.
-/
namespace Ucode

/-- The characters of a line without its end. -/
abbrev Line := List Char

namespace Line

/-- A line that a line feed has ended, without the carriage return before it. -/
def trimReturn (line : Line) : Line := if line.getLast? = some '\r' then line.dropLast else line

/-- The lines of a text whose first line begins with some characters already read. -/
def splitFrom (begun : Line) : List Char → List Line
  | [] => if begun.isEmpty then [] else [begun]
  | c :: rest => if c = '\n' then trimReturn begun :: splitFrom [] rest else splitFrom (begun ++ [c]) rest

/-- The lines of a text. -/
def split (text : List Char) : List Line := splitFrom [] text

/-- A text of some lines, with a line feed between any two. -/
def join (lines : List Line) : List Char := List.intercalate ['\n'] lines

/-- A text without the line feeds at its start and its end. -/
def trimFeeds (text : List Char) : List Char :=
  ((text.dropWhile (· == '\n')).reverse.dropWhile (· == '\n')).reverse

/-- The white space of Unicode. -/
def isSpace (c : Char) : Bool :=
  let n := c.toNat
  (9 ≤ n && n ≤ 13) || n == 32 || n == 0x85 || n == 0xA0 || n == 0x1680 || (0x2000 ≤ n && n ≤ 0x200A) ||
    n == 0x2028 || n == 0x2029 || n == 0x202F || n == 0x205F || n == 0x3000

/-- The words of a text: what white space leaves of it, empty pieces aside. -/
def words (text : List Char) : List (List Char) := (text.splitOnP isSpace).filter (!·.isEmpty)

end Line
end Ucode

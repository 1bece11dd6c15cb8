import Ucode.Proofs.Code.Keywords
import Ucode.Proofs.Tree.View

/-!
# Precedence climbing

Operands with binary operators between them, and the expression that they are read as. The levels and the side to which
each operator associates are those of the grammar; how they decide about an expression is written down here without any
parser, as precedence climbing: an operand takes all operators of at least some level that follow it, each with a right
operand that takes those of a higher level first.
-/
namespace Ucode

namespace Code

/-- The length of the longest beginning of a text that consists of such code points. -/
def spanLength (p : CodePoint → Bool) (text : List CodePoint) : Nat := (text.takeWhile p).length

/-- The length of the word that begins a text. -/
def word? : List CodePoint → Option Nat
  | [] => none
  | c :: rest => if isLetter c then some (1 + spanLength isWordPart rest) else none

end Code

namespace Code.Keyword

/-- The words that are reserved everywhere. The two others are words of imports and exports only. -/
def reserved : List Spelling := all.filter (fun k => k.characters ∉ [['a', 's'], ['f', 'r', 'o', 'm']])

end Code.Keyword

/-- A single space. -/
def space : List CodePoint := [' ']

/-- A word that can be the name of a variable. -/
structure Name where
  text : List CodePoint
  word : Code.word? text = some text.length
  free : ∀ k ∈ Code.Keyword.reserved, k.characters.map Char.toNat ≠ text

inductive Operator where
  | power | times | divide | remainder | plus | minus | shiftRight | shiftLeft
  | less | atMost | greater | atLeast | within | equal | identical | unequal | distinct
  | bitAnd | bitXor | bitOr | and | or | coalesce
  deriving DecidableEq, Repr

namespace Operator

def all : List Operator :=
  [power, times, divide, remainder, plus, minus, shiftRight, shiftLeft, less, atMost, greater, atLeast, within,
    equal, identical, unequal, distinct, bitAnd, bitXor, bitOr, and, or, coalesce]

theorem mem_all (o : Operator) : o ∈ all := by cases o <;> decide

def spelling : Operator → List Char
  | power => ['*', '*'] | times => ['*'] | divide => ['/'] | remainder => ['%'] | plus => ['+'] | minus => ['-']
  | shiftRight => ['>', '>'] | shiftLeft => ['<', '<'] | less => ['<'] | atMost => ['<', '=']
  | greater => ['>'] | atLeast => ['>', '='] | within => ['i', 'n'] | equal => ['=', '=']
  | identical => ['=', '=', '='] | unequal => ['!', '='] | distinct => ['!', '=', '='] | bitAnd => ['&']
  | bitXor => ['^'] | bitOr => ['|'] | and => ['&', '&'] | or => ['|', '|'] | coalesce => ['?', '?']

def text (o : Operator) : List CodePoint := o.spelling.map Char.toNat

/-- How tightly an operator binds. -/
def level : Operator → Nat
  | power => 12
  | times | divide | remainder => 11
  | plus | minus => 10
  | shiftRight | shiftLeft => 9
  | less | atMost | greater | atLeast | within => 8
  | equal | identical | unequal | distinct => 7
  | bitAnd => 6
  | bitXor => 5
  | bitOr => 4
  | and => 3
  | or => 2
  | coalesce => 1

/-- The least level of the operators in a right operand. Of operators of one level the first one binds its operands, but
powers are taken from the right. -/
def rightLevel : Operator → Nat
  | power => power.level
  | o => o.level + 1

end Operator

/-- A name, or two expressions with an operator between them. -/
inductive Expression where
  | name (x : Name)
  | binary (left : Expression) (o : Operator) (right : Expression)

namespace Expression

/-- What an operand and the operators of at least some level that follow it make up, and the operators that are left. -/
def climb (least : Nat) (left : Expression) (rest : List (Operator × Name)) :
    { found : Expression × List (Operator × Name) // found.2.length ≤ rest.length } :=
  match rest with
  | [] => ⟨(left, []), Nat.le_refl _⟩
  | (o, x) :: rest =>
    if o.level < least then ⟨(left, (o, x) :: rest), Nat.le_refl _⟩
    else
      match climb o.rightLevel (.name x) rest with
      | ⟨(right, others), fewer⟩ =>
        let whole := climb least (.binary left o right) others
        ⟨whole.1, Nat.le_trans whole.2 (Nat.le_succ_of_le fewer)⟩
termination_by rest.length
decreasing_by
  · exact Nat.lt_succ_self _
  · exact Nat.lt_succ_of_le fewer

section Climb

variable (least : Nat) (left : Expression) (o : Operator) (x : Name) (rest : List (Operator × Name))

theorem climb_nil : (climb least left []).1 = (left, []) := by rw [climb]

theorem climb_stop (loose : o.level < least) : (climb least left ((o, x) :: rest)).1 = (left, (o, x) :: rest) := by
  rw [climb, if_pos loose]

theorem climb_take (tight : least ≤ o.level) : (climb least left ((o, x) :: rest)).1 =
    (climb least (.binary left o (climb o.rightLevel (.name x) rest).1.1) (climb o.rightLevel (.name x) rest).1.2).1 := by
  rw [climb, if_neg (Nat.not_lt.mpr tight)]

end Climb

/-- The expression that a name and what follows it are read as. -/
def ofRow (x : Name) (rest : List (Operator × Name)) : Expression := (climb 0 (.name x) rest).1.1

/-- An expression as it is written, with single spaces. -/
def text : Expression → List CodePoint
  | name x => x.text
  | binary left o right => left.text ++ space ++ o.text ++ space ++ right.text

/-- The text of operators with their right operands. -/
def rowText (rest : List (Operator × Name)) : List CodePoint :=
  rest.flatMap fun (o, x) => space ++ o.text ++ space ++ x.text

theorem rowText_cons (o : Operator) (x : Name) (rest : List (Operator × Name)) (behind : List CodePoint) :
    rowText ((o, x) :: rest) ++ behind =
      space ++ (o.text ++ (space ++ (x.text ++ (rowText rest ++ behind)))) := by
  simp only [rowText, List.flatMap_cons, List.append_assoc]

theorem length_rowText (rest : List (Operator × Name)) : 2 * rest.length ≤ (rowText rest).length := by
  induction rest with
  | nil => exact Nat.le_refl _
  | cons operation rest ih =>
    obtain ⟨o, x⟩ := operation
    have row := congrArg List.length (rowText_cons o x rest [])
    simp only [List.append_nil, List.length_append, space, List.length_singleton] at row
    rw [List.length_cons]
    omega

theorem exists_space (rest : List (Operator × Name)) (behind : List CodePoint) :
    ∃ others, rowText rest ++ (space ++ behind) = space ++ others := by
  cases rest with
  | nil => exact ⟨behind, rfl⟩
  | cons operation rest => exact ⟨_, rowText_cons operation.1 operation.2 rest _⟩

section Row

variable (least : Nat) (left : Expression) (rest : List (Operator × Name)) (x : Name)

/-- What precedence climbing takes and what it leaves are written one behind the other. -/
theorem text_climb : (climb least left rest).1.1.text ++ rowText (climb least left rest).1.2 =
    left.text ++ rowText rest := by
  induction least, left, rest using climb.induct with
  | case1 least left => rw [climb_nil]
  | case2 least left o x rest loose => rw [climb_stop least left o x rest loose]
  | case3 least left o x rest tight right others fewer found operand whole =>
    have row : rowText ((o, x) :: rest) = space ++ (o.text ++ (space ++ (x.text ++ rowText rest))) := by
      have cons := rowText_cons o x rest []
      rwa [List.append_nil, List.append_nil] at cons
    rw [found] at operand
    have split : right.text ++ rowText others = x.text ++ rowText rest := operand
    rw [climb_take least left o x rest (Nat.not_lt.mp tight), found, whole, row, text]
    simp only [List.append_assoc, split]

/-- Below all levels precedence climbing takes every operator. -/
theorem climb_zero : (climb 0 left rest).1.2 = [] := by
  generalize lowest : 0 = least
  induction least, left, rest using climb.induct with
  | case1 least left => rw [climb_nil]
  | case2 least left o x rest loose => omega
  | case3 least left o x rest tight right others fewer found _ whole =>
    rw [climb_take least left o x rest (Nat.not_lt.mp tight), found]
    exact whole lowest

theorem text_ofRow : (ofRow x rest).text = x.text ++ rowText rest := by
  have all := text_climb 0 (.name x) rest
  rw [climb_zero, text] at all
  rw [← all, ofRow, rowText, List.flatMap_nil, List.append_nil]

/-- Operators of one level from the left, but powers from the right, and tighter ones first. -/
example (a b c d e : Name) : ofRow a [(.minus, b), (.minus, c), (.power, d), (.power, e)] =
    .binary (.binary (.name a) .minus (.name b)) .minus
      (.binary (.name c) .power (.binary (.name d) .power (.name e))) := by cbv

end Row

/-- What is seen of an expression that is written at a place and stands in a field. -/
def view (field : Option Field) (start : Extent) : Expression → View
  | name x => .sound (.node "variable") field start (start + Extent.ofText x.text) []
  | binary left o right =>
    let middle := start + Extent.ofText (left.text ++ space)
    let behind := middle + Extent.ofText (o.text ++ space)
    .sound (.node "binary_expression") field start (start + Extent.ofText (binary left o right).text)
      [left.view (Field.ofName? "left") start,
        .sound (.node "_operator") (Field.ofName? "operator") middle (middle + Extent.ofText o.text) [],
        right.view (Field.ofName? "right") behind]

end Expression
end Ucode

import Ucode.Grammar.Automaton
import Ucode.Grammar.NodeKind
import Ucode.Proofs.Parse.Lexemes

/-!
# What the table says about expressions

The entries of the parse table that decide how names and operators in an expression tag are put together, and how the tags
and the text between them are. Behind an operator an operand is read in a state that only depends on the level of the
operator; level 0 stands for the tag itself. The entries are looked up by evaluation (`excerpt`); everything that is
proved about expressions rests on them and not on the table.
-/
namespace Ucode

namespace Symbol

def rawText : Symbol := 90
def expressionOpen : Symbol := 97
def expressionClose : Symbol := 98
def markup : Symbol := 105
def expressionBlock : Symbol := 110
def expression : Symbol := 146
def primaryExpression : Symbol := 148
def binaryExpression : Symbol := 156
def expressions : Symbol := 171
def variableName : Symbol := 174
/-- The pieces of a markup, as far as they are read. -/
def pieces : Symbol := 175
/-- The guise of a name in an expression. -/
def nameGuise : Symbol := 203
/-- The guise of the token between two operands. -/
def operatorGuise : Symbol := 43

/-- What the symbols are called if they are seen. -/
def names : List (Symbol × String) := [(rawText, "raw_text"), (expressionOpen, "expression_tag_open"),
  (expressionClose, "expression_tag_close"), (markup, "markup"), (expressionBlock, "expression_block"),
  (binaryExpression, "binary_expression"), (nameGuise, "variable"), (operatorGuise, "_operator")]

/-- The symbols that are seen in their own guise. -/
def seen : List Symbol := [rawText, expressionOpen, expressionClose, markup, expressionBlock, binaryExpression]

/-- The symbols that are not seen, the end of the text among them. -/
def unseen : List Symbol := [word, finish, primaryExpression, expression, expressions]

end Symbol

namespace Production

/-- A name that is seen as a variable. -/
def name : Nat := 7

/-- Two operands and the operator between them. -/
def binary : Nat := 44

end Production

namespace Grammar
namespace StateId

/-- Where a right operand is read, by the level of the operator before it. -/
def operand : Nat → StateId
  | 0 => 472 | 1 => 510 | 2 => 502 | 3 => 501 | 4 => 506 | 5 => 505 | 6 => 504 | 7 => 509 | 8 => 708 | 9 => 503
  | 10 => 507 | 11 => 500 | _ => 508

/-- Where such an operand is complete. -/
def result : Nat → StateId
  | 0 => 989 | 1 => 838 | 2 => 855 | 3 => 856 | 4 => 881 | 5 => 875 | 6 => 874 | 7 => 836 | 8 => 877 | 9 => 859
  | 10 => 882 | 11 => 888 | _ => 835

def behindWord : StateId := 337
def behindName : StateId := 327
def behindPrimary : StateId := 976
/-- Behind the expressions of a tag. -/
def behindExpressions : StateId := 1409
/-- Behind the closing mark of a tag. -/
def behindTag : StateId := 448
/-- Behind some pieces of a markup. -/
def behindPieces : StateId := 32
/-- Behind a piece of a markup that others precede. -/
def behindPiece : StateId := 37
def behindMarkup : StateId := 1277

end StateId

open StateId

/-- The level below which an operator ends an operand, by the level of the operator before that operand. -/
def leastLevel : Nat → Nat
  | 0 => 0
  | 12 => 12
  | n => n + 1

theorem rightLevel_eq (o : Operator) : o.rightLevel = leastLevel o.level := by cases o <;> rfl

theorem level_bounds (o : Operator) : 0 < o.level ∧ o.level < 13 := by cases o <;> decide

/-- The symbols that can follow an operand in a tag. -/
def followers : List Symbol := Symbol.expressionClose :: Operator.all.map Operator.symbol

theorem symbol_mem_followers (o : Operator) : o.symbol ∈ followers := by cases o <;> decide

/-- What the table says about expressions, and about the tags and the text around them. -/
structure Excerpt : Prop where
  nodeKind : ∀ p ∈ Symbol.names, p.1.nodeKind = .node p.2
  isVisible : ∀ s ∈ Symbol.seen, s.isVisible = true
  hidden : ∀ s ∈ Symbol.unseen, s.visibility = .hidden
  pieces : Symbol.pieces.visibility = .auxiliary
  /-- A name is seen in the guise of a variable, in whatever field it stands. -/
  name : (Production.get Production.name).field? 0 = none ∧
    (Production.get Production.name).alias? 0 = some Symbol.nameGuise
  binary : (∀ part < 3, (Production.get Production.binary).field? part =
      [Field.ofName? "left", Field.ofName? "operator", Field.ofName? "right"].getD part none) ∧
    ∀ part < 3, (Production.get Production.binary).alias? part =
      [none, some Symbol.operatorGuise, none].getD part none
  lexMode_operand : ∀ level < 13, lexMode (operand level) = ⟨.any, 7⟩
  word_operand : ∀ level < 13, actions (operand level) Symbol.word = [.shift behindWord] ∧
    hasActions (operand level) 33 = false ∧ hasActions (operand level) 36 = false
  next_operand : ∀ level < 13, next (operand level) Symbol.variableName = behindName ∧
    next (operand level) Symbol.primaryExpression = behindPrimary ∧
    next (operand level) Symbol.expression = result level ∧
    next (operand level) Symbol.binaryExpression = result level
  lexMode_behindWord : lexMode behindWord = ⟨.operator, 11⟩
  within_behindWord : hasActions behindWord 17 = true
  /-- A name becomes an operand whatever follows it. -/
  actions_name : ∀ token ∈ followers, actions behindWord token = [.reduce Symbol.variableName 1 0] ∧
    actions behindName token = [.reduce Symbol.primaryExpression 1 Production.name] ∧
    actions behindPrimary token = [.reduce Symbol.expression 1 0]
  /-- Behind a right operand an operator is taken, unless it binds too loosely. -/
  actions_result : ∀ level < 13, ∀ o ∈ Operator.all, actions (result level) o.symbol =
    if o.level < leastLevel level then [.reduce Symbol.binaryExpression 3 Production.binary]
    else [.shift (operand o.level)]
  close_result : ∀ level < 13, actions (result level) Symbol.expressionClose =
    if level = 0 then [.reduce Symbol.expressions 1 0]
    else [.reduce Symbol.binaryExpression 3 Production.binary]
  lexMode_markup : ∀ state ∈ [start, behindPieces, behindPiece, behindTag], lexMode state = ⟨.any, 2⟩
  actions_start : actions start Symbol.rawText = [.shift behindPieces]
  actions_behindPieces : actions behindPieces Symbol.rawText = [.shift behindPiece] ∧
    actions behindPieces Symbol.expressionOpen = [.shift (operand 0)] ∧
    actions behindPieces Symbol.finish = [.reduce Symbol.markup 1 0]
  /-- A piece joins those before it, whatever follows. -/
  actions_behindPiece : ∀ token ∈ [Symbol.rawText, Symbol.expressionOpen, Symbol.finish],
    (actions behindPiece token).head? = some (.reduce Symbol.pieces 2 0) ∧
    ∀ a ∈ (actions behindPiece token).tail, a = .shiftRepeat behindPiece ∨ a = .shiftRepeat (operand 0)
  actions_behindTag : actions behindTag Symbol.rawText = [.reduce Symbol.expressionBlock 3 0] ∧
    actions behindExpressions Symbol.expressionClose = [.shift behindTag] ∧
    actions behindMarkup Symbol.finish = [.accept]
  next_markup : next behindPieces Symbol.expressionBlock = behindPiece ∧ next start Symbol.pieces = behindPieces ∧
    next start Symbol.markup = behindMarkup ∧ next (operand 0) Symbol.expressions = behindExpressions

/-- The table is evaluated once for all of its entries that are used. -/
theorem excerpt : Excerpt := by constructor <;> decide +kernel

theorem not_isVisible (s : Symbol) (unseen : s ∈ Symbol.unseen) : s.isVisible = false := by
  rw [Symbol.isVisible, excerpt.hidden s unseen]
  rfl

end Grammar
end Ucode

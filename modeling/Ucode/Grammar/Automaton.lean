import Ucode.Grammar.Entries
import Ucode.Grammar.States.First
import Ucode.Grammar.States.Second
import Ucode.Grammar.States.Third
import Ucode.Grammar.States.Fourth

/-!
# The parse table

The table as functions: the row of a state, the entry of a state and a token, and the state behind a node. State 0
is the state of recovery from errors and state 1 the one in which every text starts.
-/
namespace Ucode.Grammar

/-- The number of states. -/
def stateCount : Nat := 1483

/-- The rows in blocks of 64. -/
def stateBlocks : Array (Array StateRow) :=
  #[states0, states1, states2, states3, states4, states5, states6, states7, states8, states9, states10,
    states11, states12, states13, states14, states15, states16, states17, states18, states19, states20,
    states21, states22, states23]

/-- The row of a state; beyond the table a row says nothing. -/
def row (state : StateId) : StateRow :=
  (stateBlocks.getD (state / 64) #[]).getD (state % 64) ⟨0, 0, 0⟩

/-- The entry with a number; number 0 is the empty entry. -/
def entryNumber (number : Nat) : Entry :=
  if number = 0 then Entry.empty
  else (entries.getD ((number - 1) / 128) #[]).getD ((number - 1) % 128) Entry.empty

/-- What the table says for a token in a state. -/
def entry (state : StateId) (token : Symbol) : Entry :=
  if Symbol.tokenCount ≤ token then Entry.empty else entryNumber (((row state).actionNumber? token).getD 0)

/-- What can be done with a token in a state. -/
def actions (state : StateId) (token : Symbol) : List Action := (entry state token).actions

/-- Whether a token can stand next. -/
def hasActions (state : StateId) (token : Symbol) : Bool := !(actions state token).isEmpty

/-- Whether a token completes a node; of several actions the first one counts. -/
def completes (state : StateId) (token : Symbol) : Bool :=
  match actions state token with
  | .reduce .. :: _ => true
  | _ => false

/-- The state behind a node that is no token, if it can stand there. -/
def goto? (state : StateId) (symbol : Symbol) : Option StateId := (row state).goto? symbol

/-- The state behind a symbol, or the recovery state if the symbol leads nowhere. Of several actions for a token
the last one counts. -/
def next (state : StateId) (symbol : Symbol) : StateId :=
  if symbol = Symbol.error ∨ symbol = Symbol.errorRepeat then StateId.recovery
  else if symbol < Symbol.tokenCount then
    match (actions state symbol).getLast? with
    | some (.shift s) | some (.shiftRepeat s) => s
    | some .shiftExtra => state
    | _ => StateId.recovery
  else (goto? state symbol).getD StateId.recovery

/-- Which tokens are read in a state. -/
def lexMode (state : StateId) : LexMode := LexMode.table.getD (row state).mode ⟨.any, 0⟩

/-- The symbols that the table mentions for a state, in ascending order. -/
def lookaheads (state : StateId) : List Symbol :=
  (List.range Symbol.ruleCount).filter (fun s =>
    if s < Symbol.tokenCount then ((row state).actionNumber? s).isSome else (goto? state s).isSome)

end Ucode.Grammar

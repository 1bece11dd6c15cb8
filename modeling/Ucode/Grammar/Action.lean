import Ucode.Grammar.Symbol

/-!
# Parse actions

What the parser does with the next token in a state.
-/
namespace Ucode.Grammar

/-- The number of a parse state. -/
abbrev StateId := Nat

/-- The state in which what cannot be parsed is skipped. -/
def StateId.recovery : StateId := 0

/-- The state at the start of a text. -/
def StateId.start : StateId := 1

/-- One thing to do with the next token. -/
inductive Action where
  /-- Take the token and go to a state. -/
  | shift (state : StateId)
  /-- The same inside a repetition; it gives way to the reduction beside it. -/
  | shiftRepeat (state : StateId)
  /-- Take the token without leaving the state. -/
  | shiftExtra
  /-- Put a node in place of the topmost `count` nodes. -/
  | reduce (symbol : Symbol) (count : Nat) (production : Nat)
  /-- The text is complete. -/
  | accept
  /-- Skip the token, which is in error. -/
  | recover
  deriving DecidableEq, Repr, Inhabited

/-- What the table says for a state and a token. -/
structure Entry where
  /-- Whether a token that was read for another state can stand here as it is. -/
  reusable : Bool
  actions : List Action
  deriving DecidableEq, Repr, Inhabited

namespace Entry

/-- The entry of a token that cannot stand there. -/
def empty : Entry := ⟨false, []⟩

end Entry
end Ucode.Grammar

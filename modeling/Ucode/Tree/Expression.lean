import Ucode.Tree.Basic

/-!
# Trees as expressions

The expression of a tree shows its named nodes in parentheses, with the fields they belong to, and what is wrong:
tokens that are missing, and text that could not be read.
-/
namespace Ucode.Tree

/-- A code point as it is shown in an expression. -/
def quoteCodePoint (c : CodePoint) : String :=
  if c = CodePoint.illFormed then "INVALID"
  else if c = 0 then "'\\0'"
  else if c = '\n' then "'\\n'"
  else if c = '\t' then "'\\t'"
  else if c = '\r' then "'\\r'"
  else if 32 ≤ c ∧ c < 127 then "'" ++ String.singleton (Char.ofNat c) ++ "'"
  else toString c

/-- Whether a tree is shown. -/
def isShown (t : Tree) (guise : Option Symbol) : Bool :=
  t.isMissing || (match guise with
    | some a => a.isNamed
    | none => t.isVisible && t.symbol.isNamed)

/-- How the expression of a tree begins. -/
def heading (t : Tree) (guise : Option Symbol) : String :=
  let name := (guise.getD t.symbol).kind
  match t with
  | leaf l =>
    match l.origin with
    | .missing =>
      if guise.any Symbol.isNamed || l.symbol.isNamed then "(MISSING " ++ name else "(MISSING \"" ++ name ++ "\""
    | .unexpected c => if 0 < l.size.bytes then "(UNEXPECTED " ++ quoteCodePoint c else "(" ++ name
    | _ => "(" ++ name
  | node _ _ => "(" ++ name

/-- The field of a part: its own, or the one handed on by the hidden node that holds it. -/
def fieldOfPart (production part : Nat) (handedOn : Option String) : Option String :=
  match (Production.get production).field? part with
  | some field => field.name?
  | none => handedOn

mutual
/-- Appends the expression of a tree to a text. -/
def appendExpression (guise : Option Symbol) (field : Option String) (text : String) : Tree → String
  | leaf l =>
    if isShown (leaf l) guise then
      text ++ " " ++ (field.elim "" (· ++ ": ")) ++ heading (leaf l) guise ++ ")"
    else text
  | node s ts =>
    if isShown (node s ts) guise then
      appendExpressions s.production 0 none
        (text ++ " " ++ (field.elim "" (· ++ ": ")) ++ heading (node s ts) guise) ts ++ ")"
    else appendExpressions s.production 0 field text ts

/-- Appends the expressions of the parts of a rule, from one part on. -/
def appendExpressions (production part : Nat) (handedOn : Option String) (text : String) : List Tree → String
  | [] => text
  | t :: ts =>
    if t.extra then appendExpressions production part handedOn (appendExpression none none text t) ts
    else
      let guise := (Production.get production).alias? part
      appendExpressions production (part + 1) handedOn
        (appendExpression guise (fieldOfPart production part handedOn) text t) ts
end

/-- The expression of a whole tree, whose root is always shown. -/
def expression (t : Tree) : String :=
  appendExpressions t.production 0 none (heading t none) t.children ++ ")"

/-- Whether a tree is in error, or something in it is. -/
def hasError (t : Tree) : Bool := 0 < t.errorCost

end Ucode.Tree

/-!
# JSON

Values and their text, laid out with two blanks for each level.
-/
namespace Ucode

/-- A JSON value without numbers. -/
inductive Json where
  | bool (b : Bool)
  | string (s : String)
  | array (items : List Json)
  | object (fields : List (String × Json))

namespace Json

/-- A text in quotes. Quotes and backslashes in it are marked; no other character needs to be. -/
def quote (s : String) : String :=
  "\"" ++ String.ofList (s.toList.flatMap (fun c => if c = '"' ∨ c = '\\' then ['\\', c] else [c])) ++ "\""

/-- The start of a line at a level. -/
def newline (level : Nat) : String := "\n" ++ String.ofList (List.replicate (2 * level) ' ')

mutual
/-- The text of a value at a level. -/
def layAt (level : Nat) : Json → String
  | bool b => if b then "true" else "false"
  | string s => quote s
  | array [] => "[]"
  | array (item :: items) =>
    "[" ++ newline (level + 1) ++ layAt (level + 1) item ++ layItems (level + 1) items ++ newline level ++ "]"
  | object [] => "\x7b\x7d"
  | object ((name, value) :: fields) =>
    "\x7b" ++ newline (level + 1) ++ quote name ++ ": " ++ layAt (level + 1) value ++ layFields (level + 1) fields ++
      newline level ++ "\x7d"

/-- The further items of an array. -/
def layItems (level : Nat) : List Json → String
  | [] => ""
  | item :: items => "," ++ newline level ++ layAt level item ++ layItems level items

/-- The further fields of an object. -/
def layFields (level : Nat) : List (String × Json) → String
  | [] => ""
  | (name, value) :: fields =>
    "," ++ newline level ++ quote name ++ ": " ++ layAt level value ++ layFields level fields
end

/-- The text of a value. -/
def lay (j : Json) : String := j.layAt 0

end Json
end Ucode

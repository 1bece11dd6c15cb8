import Ucode.Grammar.NodeKind

/-!
# Queries

A query is a list of patterns, each of which gives a name to some nodes of a tree. A pattern asks for a node of one
of several kinds, or for a row of nodes that lead down from one to the next through fields; its name goes to
the last of them. The patterns stand in groups under headings, and a query has a text in which they are laid
out.
-/
namespace Ucode

namespace Query

open NodeKind (node)

/-- What to look for, and the name for what is found. -/
structure Pattern where
  /-- The kinds that the first node can have. -/
  kinds : List NodeKind
  /-- The fields that lead down from it, with the kinds of the nodes they lead to. -/
  path : List (String × NodeKind)
  /-- The name for the last node. -/
  capture : String
  deriving DecidableEq, Repr

namespace Pattern

/-- A node of a kind. -/
def one (kind : NodeKind) (capture : String) : Pattern := ⟨[kind], [], capture⟩

/-- A node of any of some kinds. -/
def anyOf (kinds : List NodeKind) (capture : String) : Pattern := ⟨kinds, [], capture⟩

/-- The node in a field of a node. -/
def within (outer field inner capture : String) : Pattern := ⟨[node outer], [(field, node inner)], capture⟩

end Pattern

/-- Patterns under a heading, in groups. -/
structure Chapter where
  title : String
  groups : List (List Pattern)
  deriving Repr

end Query

/-- A list of patterns in chapters. -/
structure Query where
  chapters : List Query.Chapter
  deriving Repr

namespace Query

/-- The patterns in their order. -/
def patterns (q : Query) : List Pattern := q.chapters.flatMap (fun c => c.groups.flatten)

/-- The names that a query gives, in the order in which it first does. -/
def captureNames (q : Query) : List String :=
  q.patterns.foldl (fun names p => if names.contains p.capture then names else names ++ [p.capture]) []

/-! ### The text of a query -/

namespace Pattern

/-- The fields that lead down, each on a line of its own and one step further in. -/
def layPath (capture : String) (indent : String) : List (String × NodeKind) → String
  | [] => ""
  | [(field, kind)] => "\n" ++ indent ++ field ++ ": " ++ kind.opening ++ kind.closing ++ " @" ++ capture
  | (field, kind) :: below =>
    "\n" ++ indent ++ field ++ ": " ++ kind.opening ++ layPath capture (indent ++ "  ") below ++ kind.closing

/-- The lines of a pattern. -/
def lay (p : Pattern) : String :=
  match p.kinds, p.path with
  | [kind], [] => kind.opening ++ kind.closing ++ " @" ++ p.capture ++ "\n"
  | [kind], path => kind.opening ++ layPath p.capture "  " path ++ kind.closing ++ "\n"
  | kinds, _ =>
    "[\n" ++ String.join (kinds.map (fun k => "  " ++ k.opening ++ k.closing ++ "\n")) ++ "] @" ++ p.capture ++ "\n"

end Pattern

/-- A piece of the text of a query. -/
inductive Line where
  | pattern (p : Pattern)
  | heading (title : String)
  | blank

namespace Line

/-- The text of a piece. -/
def text : Line → String
  | pattern p => p.lay
  | heading title => "; " ++ title ++ "\n"
  | blank => "\n"

end Line

/-- The pieces of a chapter: blank lines part its groups. -/
def Chapter.lines (c : Chapter) : List Line :=
  .heading c.title :: c.groups.flatMap (fun g => .blank :: g.map .pattern)

/-- The pieces of a query: blank lines part its chapters. -/
def lines (q : Query) : List Line := ((q.chapters.map Chapter.lines).intersperse [.blank]).flatten

/-- The text of a query. -/
def source (q : Query) : String := String.join (q.lines.map Line.text)

/-- Where the patterns among some pieces of text start, in bytes. -/
def startsFrom (offset : Nat) : List Line → List Nat
  | [] => []
  | l :: ls =>
    let behind := startsFrom (offset + l.text.utf8ByteSize) ls
    match l with
    | .pattern _ => offset :: behind
    | _ => behind

/-- Where the patterns start in the text of a query, in bytes. -/
def patternStarts (q : Query) : List Nat := startsFrom 0 q.lines

end Query
end Ucode

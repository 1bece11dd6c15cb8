import Ucode.Code.Keyword
import Ucode.Grammar.Automaton
import Ucode.Template.Scan
import Ucode.Tree.Basic

/-!
# Reading the next token

A parse state accepts some template tokens and some lexemes of the code. The template tokens are tried first, from
the context behind the last one of them; then the lexemes. If neither is found, everything is accepted; and if
nothing can be read at all, code points are skipped one by one until something can, and what was skipped
becomes an error leaf.
-/
namespace Ucode.Parse

open Grammar (StateId LexMode)

/-- What there is to know about a version that is about to read. -/
structure Situation where
  state : StateId
  /-- The context behind the version's last template token. -/
  context : Option Template.Snapshot
  /-- Whether the version has read any text since its last error. -/
  advanced : Bool
  /-- Whether the version stands at the start of the text. -/
  atStart : Bool

/-- A template token or a lexeme, with its place in code points. -/
structure Sighting where
  symbol : Symbol
  start : Nat
  stop : Nat
  origin : Origin

namespace Situation

/-- The byte order mark before a token at the very start of the text. -/
def markLength (s : Situation) (skipped : Nat) (rest : List CodePoint) : Nat :=
  if s.atStart ∧ skipped = 0 ∧ rest.head? = some CodePoint.byteOrderMark then 1 else 0

/-- Whether a template token is passed over because it is empty and leaves everything as it was. Otherwise
recovery could read it forever. -/
def ignores (s : Situation) (recovering : Bool) (symbol : Symbol) (stop : Nat) (changed : Bool) : Bool :=
  stop == 0 && !changed && (recovering || !s.advanced || Grammar.next s.state symbol == s.state)

/-- The template token that stands next, and the context that the attempt to read it leaves. -/
def template? (s : Situation) (mode : LexMode) (recovering : Bool) (skipped : Nat) (reader : Template.Context)
    (rest : List CodePoint) : Template.Context × Option Sighting :=
  if mode.template = 0 then (reader, none)
  else
    let mark := s.markLength skipped rest
    let scan := ((reader.resume s.context).scan mode.accepts (rest.drop mark)).behind mark
    match scan.token with
    | none => (scan.context, none)
    | some token =>
      let saved := scan.context.save
      let changed := saved != s.context
      let symbol := LexMode.symbolOf token
      if s.ignores recovering symbol scan.stop changed then (scan.context, none)
      else (scan.context, some ⟨symbol, scan.start, scan.stop, .template saved changed⟩)

/-- The symbol of a word: a reserved word is one only where it can stand. -/
def wordSymbol (s : Situation) (length : Nat) (text : List CodePoint) : Symbol × Bool :=
  match Code.Keyword.read? text with
  | none => (Symbol.word, false)
  | some keyword =>
    (if keyword.stop = length ∧ Grammar.hasActions s.state keyword.symbol then keyword.symbol else Symbol.word, true)

/-- The lexeme of the code that stands next. -/
def code? (s : Situation) (mode : LexMode) (skipped : Nat) (rest : List CodePoint) : Option Sighting :=
  let mark := s.markLength skipped rest
  match Code.read? mode.code (rest.drop mark) with
  | none => none
  | some reading =>
    let (symbol, reserved) :=
      if reading.symbol = Symbol.word then
        s.wordSymbol (reading.stop - reading.start) (rest.drop (mark + reading.start))
      else (reading.symbol, false)
    some ⟨symbol, mark + reading.start, mark + reading.stop, .code reserved⟩

/-- The token that stands next, template tokens first. -/
def token? (s : Situation) (mode : LexMode) (recovering : Bool) (skipped : Nat) (reader : Template.Context)
    (rest : List CodePoint) : Template.Context × Option Sighting :=
  match s.template? mode recovering skipped reader rest with
  | (reader, some sighting) => (reader, some sighting)
  | (reader, none) => (reader, s.code? mode skipped rest)

/-- A stretch of text in which nothing can be read. -/
structure Gap where
  start : Nat
  stop : Nat
  /-- The code point at which the first attempt to read stopped. -/
  stopper : CodePoint

/-- A token, or the gap before the place where one can be read again. -/
inductive Found where
  | token (sighting : Sighting)
  | gap (gap : Gap)

/-- Reads with everything accepted, from a place behind `skipped` code points of the gap so far. -/
def recoverFrom (s : Situation) (text : List CodePoint) :
    Nat → Template.Context → Option Gap → Nat → Template.Context × Found
  | 0, reader, gap, skipped => (reader, .gap (gap.getD ⟨skipped, skipped, CodePoint.nul⟩))
  | fuel + 1, reader, gap, skipped =>
    let rest := text.drop skipped
    -- A token found behind a gap is left for the next read: the gap is a leaf of its own.
    match s.token? (Grammar.lexMode StateId.recovery) true skipped reader rest, gap with
    | (reader, some sighting), none => (reader, .token sighting)
    | (reader, some _), some gap => (reader, .gap gap)
    | (reader, none), gap =>
      let mark := s.markLength skipped rest
      -- The lexer has passed some text before it gave up, and the gap reaches at least as far. Where it has not moved,
      -- one code point more is skipped.
      let vain := Code.advance .any (rest.drop mark)
      let start := skipped + mark + vain.start
      let stop := skipped + mark + vain.place
      let gap := gap.getD ⟨start, start, (text.drop stop).headD CodePoint.nul⟩
      if stop ≠ gap.stop then recoverFrom s text fuel reader (some { gap with stop := stop }) stop
      else if (text.drop stop).isEmpty then (reader, .gap gap)
      else recoverFrom s text fuel reader (some { gap with stop := stop + 1 }) (stop + 1)

/-- Reads what the state accepts, or else anything. -/
def find (s : Situation) (reader : Template.Context) (text : List CodePoint) : Template.Context × Found :=
  if s.state = StateId.recovery then s.recoverFrom text (text.length + 2) reader none 0
  else
    match s.token? (Grammar.lexMode s.state) false 0 reader text with
    | (reader, some sighting) => (reader, .token sighting)
    | (reader, none) => s.recoverFrom text (text.length + 2) reader none 0

/-- The leaf of a piece of text. -/
def leafOf (s : Situation) (text : List CodePoint) (symbol : Symbol) (start stop : Nat) (origin : Origin) : Leaf :=
  { symbol := symbol
    padding := Extent.ofText (text.take start)
    size := Extent.ofText ((text.drop start).take (stop - start))
    extra := symbol == Symbol.finish
    state := s.state
    origin := origin }

/-- Reads the next leaf of a text. -/
def read (s : Situation) (reader : Template.Context) (text : List CodePoint) : Template.Context × Leaf :=
  match s.find reader text with
  | (reader, .token t) => (reader, s.leafOf text t.symbol t.start t.stop t.origin)
  | (reader, .gap g) => (reader, s.leafOf text Symbol.error g.start g.stop (.unexpected g.stopper))

end Situation
end Ucode.Parse

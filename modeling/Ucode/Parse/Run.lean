import Ucode.Parse.Recovery
import Ucode.Parse.Token
import Ucode.Tree.Balance

/-!
# Parsing a text

All versions are advanced in turn, each until it has passed the others; then they are compared, joined, and those far
behind are given up. The parse is over when no version is left, or when none can become better than a
complete tree that was found.
-/
namespace Ucode
namespace Parse

open Grammar (StateId)

namespace Session

/-! ### Advancing a version -/

/-- Whether the token read last can stand in a state as it is. -/
def isReusable (state : StateId) (token : Leaf) : Bool :=
  let entry := Grammar.entry state token.symbol
  let mode := Grammar.lexMode state
  let reserved := match token.origin with
    | .code reserved => reserved
    | _ => false
  -- The same lexer would read it again, but what a word is depends on the state as well.
  if !entry.actions.isEmpty && Grammar.lexMode token.state == mode &&
      (token.symbol != Symbol.word || (!reserved && token.state == state)) then true
  -- Otherwise it counts only where no template token could be read instead.
  else if token.size.bytes == 0 && token.symbol != Symbol.finish then false
  else mode.template == 0 && entry.reusable

/-- The token that comes next in a version. -/
def nextToken (s : Session) (text : List CodePoint) (i : Nat) : Session × Leaf :=
  let state := s.stack.state i
  let place := s.stack.place i
  let context := (s.stack.version i).context
  let cached := s.last.filter (fun l =>
    l.bytes == place.bytes && l.context == context && isReusable state l.token)
  match cached with
  | some l => (s, l.token)
  | none =>
    let situation : Situation := ⟨state, context, s.stack.hasAdvanced i, place.bytes == 0⟩
    let (reader, token) := situation.read s.reader (text.drop place.points)
    ({ s with reader := reader, last := some ⟨token, context, place.bytes⟩ }, token)

/-- Takes a token. -/
def shift (s : Session) (i : Nat) (token : Leaf) (state : StateId) (extra : Bool) : Session :=
  let token := { token with extra := extra }
  { s with stack := noteContext (s.stack.push i (some (.leaf token)) state) i token }

/-- What the actions for a token have led to. -/
inductive Outcome where
  /-- The version has taken the token, or has come to an end. -/
  | done (s : Session)
  /-- The version was reduced; the version with this number takes its place. -/
  | reduced (s : Session) (version : Nat)
  /-- No action has applied. -/
  | stuck (s : Session)

/-- Performs actions in their order. Reductions add versions; taking the token ends the matter. -/
def perform (i : Nat) (token : Leaf) : List Grammar.Action → Option Nat → Session → Outcome
  | [], none, s => .stuck s
  | [], some version, s => .reduced s version
  | .shift state :: _, _, s => .done (s.shift i token state false)
  | .shiftExtra :: _, _, s => .done (s.shift i token (s.stack.state i) true)
  | .shiftRepeat _ :: others, last, s => perform i token others last s
  | .reduce symbol count production :: others, last, s =>
    let (stack, version) := s.stack.reduce i ⟨symbol, count, production⟩
    perform i token others (version <|> last) { s with stack := stack }
  | .accept :: _, _, s => .done (s.accept i token)
  | .recover :: _, _, s => .done (s.recover i token)

/-- A reserved word as an ordinary one, if it can stand in a state as such. -/
def asWord? (state : StateId) (token : Leaf) : Option Leaf :=
  match token.origin with
  | .code true =>
    if token.symbol ≠ Symbol.word ∧ Grammar.hasActions state Symbol.word then some { token with symbol := Symbol.word }
    else none
  | _ => none

/-- Performs the actions for a token, and those of the states that its reductions lead to. -/
def takeToken (i : Nat) : Nat → Leaf → Session → Session
  | 0, _, s => { s with stack := s.stack.halt i }
  | fuel + 1, token, s =>
    let state := s.stack.state i
    match perform i token (Grammar.actions state token.symbol) none s with
    | .done s => s
    | .reduced s version => takeToken i fuel token { s with stack := s.stack.replace version i }
    | .stuck s =>
      match asWord? state token with
      | some word => takeToken i fuel word s
      | none =>
        if state = StateId.recovery then s.recover i token
        else { s with stack := s.stack.pause i token }

/-- More steps than the actions for one token can take. -/
def tokenSteps (s : Session) : Nat := 8 * (s.stack.vertices.size + 64)

/-- Takes one token in a version. -/
def advance (s : Session) (text : List CodePoint) (i : Nat) : Session :=
  let (s, token) := s.nextToken text i
  takeToken i s.tokenSteps token s

/-- Advances a version until it has passed the place that others have reached. -/
def advancePast (text : List CodePoint) (i : Nat) : Nat → Nat → Session → Session × Nat
  | 0, reached, s => (s, reached)
  | fuel + 1, reached, s =>
    if s.stack.isActive i then
      let s := s.advance text i
      let bytes := (s.stack.place i).bytes
      if reached < bytes ∨ (0 < i ∧ bytes = reached) then (s, bytes)
      else advancePast text i fuel reached s
    else (s, reached)

/-- Advances all versions in turn, and those that are added meanwhile. -/
def advanceAll (text : List CodePoint) (steps : Nat) : Nat → Nat → Nat → Session → Session × Nat
  | 0, _, reached, s => (s, reached)
  | fuel + 1, i, reached, s =>
    if i < s.stack.size then
      let (s, reached) := advancePast text i steps reached s
      advanceAll text steps fuel (i + 1) reached s
    else (s, reached)

/-! ### Comparing the versions -/

/-- What comparing one version with the earlier ones has led to, with the number that it has or had. -/
inductive Placing where
  | gone (number : Nat)
  | kept (number : Nat)

/-- Compares version `i`, whose standing was taken before, with the versions from `j` on up to it. -/
def compareWith (mine : Standing) : Nat → Nat → Nat → Stack → Stack × Placing
  | 0, i, _, s => (s, .kept i)
  | fuel + 1, i, j, s =>
    if i ≤ j then (s, .kept i)
    else
      let (s, standing) := s.standing j
      match standing.compare mine with
      | .takeLeft => (s.remove i, .gone i)
      | .preferLeft | .even =>
        match s.merge? j i with
        | some s => (s, .gone i)
        | none => compareWith mine fuel i (j + 1) s
      | .preferRight =>
        match s.merge? j i with
        | some s => (s, .gone i)
        | none => compareWith mine fuel i (j + 1) (s.swap i j)
      -- With `j` gone, the version compared and the one to compare with next have both moved up.
      | .takeRight => compareWith mine fuel (i - 1) j (s.remove j)

/-- Sorts out the versions from number `i` on, and tells the least cost of one that is not in error. -/
def sortFrom : Nat → Nat → Option Nat → Stack → Stack × Option Nat
  | 0, _, least, s => (s, least)
  | fuel + 1, i, least, s =>
    if s.size ≤ i then (s, least)
    else if s.isHalted i then sortFrom fuel i least (s.remove i)
    else
      let (s, mine) := s.standing i
      let least := if mine.inError then least else some (match least with
        | none => mine.cost
        | some cost => min cost mine.cost)
      match compareWith mine s.size i 0 s with
      | (s, .gone i) => sortFrom fuel i least s
      | (s, .kept i) => sortFrom fuel (i + 1) least s

/-- Lets the first paused version recover if no version before it goes on, and removes the other paused ones. Of
`count` versions, those from number `i` on are left to do. -/
def resumeFrom : Nat → Nat → Nat → Bool → Option Nat → Session → Session × Option Nat
  | 0, _, _, _, least, s => (s, least)
  | fuel + 1, i, count, going, least, s =>
    if count ≤ i then (s, least)
    else
      match (s.stack.version i).status with
      | .paused token =>
        -- Recovery is dear, so one version at a time may try it, and only while nothing else goes on.
        if !going && s.accepted < maxVersions then
          let least := some (s.stack.errorCost i)
          let s := { s with stack := s.stack.resume i }.handleError i token
          resumeFrom fuel (i + 1) count true least s
        else resumeFrom fuel i (count - 1) going least { s with stack := s.stack.remove i }
      | _ => resumeFrom fuel (i + 1) count true least s

/-- Compares all versions and keeps the best ones. Tells the least cost that a version can end with. -/
def condense (s : Session) : Session × Option Nat :=
  let (stack, least) := sortFrom (2 * s.stack.size + 1) 0 none s.stack
  let stack := { stack with versions := stack.versions.take maxVersions }
  let s := { s with stack := stack }
  resumeFrom (stack.size + 1) 0 stack.size false least s

/-! ### The whole text -/

/-- Whether the best complete tree is better than anything the versions can still lead to. -/
def isOver (s : Session) (least : Option Nat) : Bool :=
  s.finished.any (fun t => least.all (t.errorCost < ·))

/-- Advances and compares the versions until the parse is over. -/
def run (text : List CodePoint) (steps : Nat) : Nat → Nat → Session → Session
  | 0, _, s => s
  | fuel + 1, reached, s =>
    let (s, reached) := advanceAll text steps steps 0 reached s
    let count := s.stack.size
    let (s, least) := s.condense
    if s.isOver least ∨ count = 0 then s else run text steps fuel reached s

/-- More steps than any loop over a text takes. -/
def stepsFor (text : List CodePoint) : Nat := 64 * (text.length + 16)

end Session

/-- The tree of a text, before its repetitions are balanced. -/
def tree (text : List CodePoint) : Tree :=
  let steps := Session.stepsFor text
  ((Session.initial.run text steps steps 0).finished).getD (Tree.ofChildren Symbol.error 0 [] false)

end Parse

/-- The tree of a text. Every text has one; what cannot be parsed is in its errors. -/
def parse (text : List CodePoint) : Tree := (Parse.tree text).balance

end Ucode

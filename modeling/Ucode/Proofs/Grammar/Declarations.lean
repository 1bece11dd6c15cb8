import Ucode.Proofs.Grammar.Survey

/-!
# Which parts a rule has

The table does not say which symbols a reduction is made over. But a stack is a path along the actions and gotos of the table,
so what the topmost symbols below a state can be is known for each state: `recent` is a certificate of it, which one pass over
the table checks on every step of such a path and on every reduction (`inspection`). Symbols are told apart by their roles
in the declaration of names only. `takes_of_reaches` says what a reduction is made over, and `Production.takes` how names get
from the rule of a declaration up to the node that is seen of it.
-/
namespace Ucode

/-! ### Roles -/

/-- What a symbol has to do with the names that a source declares. -/
inductive Role where
  /-- No name is seen through it. -/
  | plain
  /-- The token that a name is written with. -/
  | word
  | name
  /-- A declaration that starts with `const`, without what ends it, and the names in it that others follow. -/
  | constants
  | earlierConstants
  /-- The same with `let`. -/
  | lets
  | earlierLets
  /-- What a loop runs through, with a name or two for it. -/
  | items
  | header
  | loop
  /-- A function in a hidden rule, which has a name of another kind. -/
  | function
  /-- A node in which names are looked for. -/
  | statement
  /-- A stretch of skipped tokens, which is no part of any rule. -/
  | skipped
  deriving DecidableEq

namespace Field

/-- The field of a name in a declaration. -/
def declared : Field := 28

/-- The fields of the names in the header of a loop. -/
def iterated : List Field := [21, 22, 23]

/-- Whether names stand in the field. -/
def isNaming (f : Field) : Bool := f == declared || iterated.contains f

end Field

namespace Symbol

def declaration : Symbol := 116
def forStatement : Symbol := 128
/-- The guise of a declaration that is exported, by its first word. -/
def exportConst : Symbol := 197
def exportLet : Symbol := 199

/-- The symbols that have to do with names. -/
def roles : List (Symbol × Role) := [(word, .word), (variableName, .name), (114, .constants), (176, .earlierConstants),
  (115, .lets), (177, .earlierLets), (123, .items), (125, .header), (126, .loop), (127, .loop),
  (130, .function), (131, .function), (declaration, .statement), (forStatement, .statement), (errorRepeat, .skipped)]

def role (s : Symbol) : Role := (roles.lookup s).getD .plain

/-- The set of the symbols whose nodes are not shown. -/
def unseenSet : Nat := 0x1fff989904149c0efb6d3c20000000000000000000000003

/-- The set of the symbols that stand for a repetition. -/
def repetitionSet : Nat := 0x1fff80000000000000002000000000000000000000000000

/-- Whether names are looked for in what is seen of the parts of the symbol's nodes. -/
def isSearched (s : Symbol) : Bool := unseenSet.testBit s && s.role != .function || s.role == .statement

/-- Whether the symbol stands for a repetition. -/
def isRepetition (s : Symbol) : Bool := repetitionSet.testBit s

end Symbol

namespace Role

/-- Whether a part of the role shows no name if it is seen in a guise; of a declaration the guise has to be one of a
declaration. -/
def isSeenAs (guise : Symbol) : Role → Bool
  | plain | word | name | function => true
  | constants => guise == Symbol.exportConst
  | lets => guise == Symbol.exportLet || guise == Symbol.declaration
  | _ => false

end Role

namespace Production

/-- Whether a part of a role, which has no guise, can stand in a node of a symbol. Names stand in their own fields, the rules
that lead to them each in one place, and behind the earlier names of a declaration there is another one. -/
def holds (p : Production) (symbol : Symbol) (part : Nat) : Role → Bool
  | .plain | .word | .statement => true
  | .name =>
    match symbol.role with
    | .constants | .lets | .earlierConstants | .earlierLets => p.field? part == some Field.declared
    | .items => (p.field? part).any Field.iterated.contains
    | _ => false
  | .constants | .lets => symbol == Symbol.declaration && part == 0
  | .earlierConstants => symbol.role == .earlierConstants || symbol.role == .constants && p.hasLater Field.declared part
  | .earlierLets => symbol.role == .earlierLets || symbol.role == .lets && p.hasLater Field.declared part
  | .items => symbol.role == .header && part == 0
  | .header => symbol.role == .loop && part == 2
  | .loop => symbol == Symbol.forStatement && part == 0
  | .function => !symbol.isSearched
  | .skipped => false

/-- Whether a part of a role can stand in a node of a symbol. Where names are looked for, only names are in their fields. -/
def takes (symbol : Symbol) (production part : Nat) (r : Role) : Bool :=
  let p := get production
  if symbol.role = .name then r == .word
  else
    match p.alias? part with
    | some guise => r.isSeenAs guise && (r == .name || !symbol.isRepetition) &&
        !(symbol.isSearched && (p.field? part).any Field.isNaming)
    | none => p.holds symbol part r && (r == .name || !(symbol.isSearched && (p.field? part).any Field.isNaming))

end Production

namespace Grammar

open StateRow

/-! ### The certificate -/

/-- Roles of the topmost symbols below a state as digits to base 16, the top one in the lowest digit. -/
def recentPatterns : List Nat := [
  0x0, 0x1, 0x2, 0x3, 0x4, 0x5, 0x8, 0xa, 0xb, 0xd, 0x11, 0x13, 0x14, 0x15, 0x16, 0x17, 0x1b, 0x1d, 0x31, 0x41, 0x51,
  0x66, 0x77, 0xc1, 0xdd, 0x111, 0x113, 0x119, 0x11d, 0x131, 0x163, 0x173, 0x1d1, 0x311, 0x313, 0x31c, 0x511, 0xc13,
  0x1111, 0x1113, 0x111d, 0x1131, 0x1191, 0x11d1, 0x1311, 0x1313, 0x1631, 0x1731, 0x3111, 0x3131, 0x5111, 0x11111,
  0x1111d, 0x11131, 0x111d1, 0x11911, 0x1191d, 0x11d11, 0x11d1d, 0x13111, 0x13131, 0x16311, 0x17311, 0x31311,
  0x51111, 0x111111, 0x111113, 0x11111d, 0x1111d1, 0x111d11, 0x111d1d, 0x11911d, 0x11d111, 0x131111, 0x13111d,
  0x131311, 0x1111111, 0x1111131, 0x11111d1, 0x111d11d, 0x111d1d1, 0x11911d1, 0x11d1111, 0x11d1113, 0x11d111d,
  0x1311111, 0x131111d, 0x13111d1, 0x11111311, 0x111d11d1, 0x11d11131, 0x11d111d1, 0x131111d1, 0x111113111,
  0x11111311d, 0x11d111311, 0x11111311d1, 0x11d1113111, 0x11d111311d, 0x11d111311d1]

/-- The numbers of the patterns of 64 states each, as digits to base 256. -/
def recentNumbers : List Nat := [
  0x43494a4a4347463b333b333426282611280a625f5e1c565811111856494a540956564f494a3b4843494a4a54281c19280a182828010101010101010101180000,
  0x4a433b333426113b56494a433b333426113356494a433b333426113b56494a433b333426113356494a433b3334261143625f5e565856494a1c56564f494a3b48,
  0x19190a0a0a332619191919191919190a010a193326190201020301263319021903022b2b0a49453b373619191901490a0a453b37362a192a0a19340a47465649,
  0x19191919191919191919190a0a0a19193e012c2c0a0a3d0141440a26263355575c330a0a4919192626264919200a0a0a0a1919190a5c55574e33191919191919,
  0x1926020103263302191902010a0a03030202192c3d3e2c20010a5c55574e49414426263333330a19192626260a190a195c195519190a570a0a0a493326191919,
  0x1261919190201010126013301332626190101331901191926190101191902010126190101010119260201010103020101020b0301011f0b0303010233010119,
  0xa3a0a6136605c0a0a192626260c080a51140a0750520141410a415d0a0141015557011c26190a5b321c4501100126490d5c59140819381324190a5726262619,
  0xa0a0a0a0a0a0a0a0a0a0a0a0a0a0a0a0a0a0a0a0101190a010101010101190b0a12190a0a1d19010a010a3c0a19010a3101191f0a0119074e4c0a360a630a19,
  0x10101260a0a0a0a0a0a0a0a0a0a0a0a0a0a010101016361605c5d55575b5c5949524e4c57515041414141452638363a3626192626262f2e1c1c1d1d19190a0a,
  0xa0a0a0a0a010101260a0a010a0a0a0a0a0a0a0a0a0a0a0a2f2e01010101260a0a0a0a0a0a0a0a0a0a0a0a0a0a010101260a0a0a0a0a0a0a0a0a0a0a0a0a0a01,
  0xc140a0a0a0a0a0a080807070a010101010101010a011d1d010a0a012f1d0a0a0a0a0a0a2f2e1d1d0a0a0a0a0a0a010a0126260a12120a0a260a0a0a0a0a0a0a,
  0x330a0a5c55574e494126442626333333191919262626190a19191919200a0a19190a0a0a0a3319192619011919191919191919191919190a010a0a0a130a100d,
  0x1919191926550149260a330a5c570a01190a33010a4e0a0a33190a0a0a190a0a0101200a4144192619262619190a19191919191919190a0a010a0a1901191919,
  0x260a19010a2626190a0a0a26331919191919190a1919191919331919191919191919190a19332619190a191919010a19191919191919191919191919190a0a0a,
  0x265c550a0a574e4941442649260a263333330a0a0a19192626261926261919010a3319333319190a0a19190a190a3e193d200a0a19200a19194e190a0a260a0a,
  0x1191919211919192119192c0a3e010a190a190a330a0a0a19190a190a19190a010a01011920195c55574e490a4144012626333333410a2c442c26195c195557,
  0xa0a0a1d0a1d0a0a1d0a1d0a331d0a411d1d1d0a1d1d33010a410a0a1d0101011926192601261901260126190119011901010126261901010101010101010a0a,
  0x190a0a01011919191f0a0a0f0a01010a1901190a0a0a03010f0a0a190212361201010a0a0a0b360a040a01050a190a0a05190401010a0a0a0a1f0a0a0a0a0a0b,
  0x1a19121d190101010a01030a120a1a2519013933192c010b3b0a190a01010101010101030a0f19190e010a0a0a0e010f0119190a0a010e160119190a0a150a19,
  0x1e260019301919212c2c0a12011939030a010a031948330a19030a0a0a0119190a17120a030a170a19210a19260a0a0a230a0a3b0a48262c030a0a0a0a010a01,
  0xa0101190b0a0a190101190a0a33010119402c0a0a1d01191a330a012619191b260119192332010a5a01333b01061919050a2601010130011a4b0b25190b2c26,
  0x263b2c260a01190a2119193b2c262219190a2b0b192d2c261919190a1919033b2c26421b190a1e2903260b5a4d3b01243b2c192729012c2c262626263f260a19,
  0xb260b010a0a0b190b190a0b012c261953012c0a1e3b012c011901332c331901262c26194d0153422c2c1a2b2c2626191919190b3519013b2c260a0a190a0a0b,
  0x3b0101012c0b030b1a0b0a]

/-- Numbers below a power of two as the digits of one number. -/
def packed (width : Nat) (numbers : List Nat) : Nat := numbers.foldr (fun n others => n + 2 ^ width * others) 0

/-- One digit of such a number. -/
def digitAt (width numbers place : Nat) : Nat := numbers >>> (width * place) % 2 ^ width

def packedPatterns : Nat := packed 48 recentPatterns

def packedNumbers : Nat := packed 512 recentNumbers

/-- The roles of the topmost symbols below a state, as a pattern. -/
def recent (state : StateId) : Nat := digitAt 48 packedPatterns (digitAt 8 packedNumbers state)

/-- The roles that a digit of a pattern stands for: any role, one, or one of two. -/
def rolesOf : Nat → List Role
  | 1 => [.plain] | 2 => [.word] | 3 => [.name] | 4 => [.constants] | 5 => [.lets] | 6 => [.earlierConstants]
  | 7 => [.earlierLets] | 8 => [.items] | 9 => [.header] | 10 => [.loop] | 11 => [.function] | 12 => [.plain, .name]
  | 13 => [.plain, .statement]
  | _ => [.plain, .word, .name, .constants, .lets, .earlierConstants, .earlierLets, .items, .header, .loop,
      .function, .statement]

/-- Whether each digit of a pattern stands for all that the same digit of another one stands for. -/
def covers : Nat → Nat → Nat → Bool
  | 0, _, _ => false
  | fuel + 1, pattern, other =>
    Nat.beq pattern 0 ||
      (Nat.beq (pattern % 16) (other % 16) || Nat.beq (pattern % 16) 0 ||
          Nat.beq (other % 16) 1 && (Nat.beq (pattern % 16) 12 || Nat.beq (pattern % 16) 13) ||
          Nat.beq (other % 16) 3 && Nat.beq (pattern % 16) 12) &&
        covers fuel (pattern / 16) (other / 16)

/-- The roles of tokens, each with the sets that hold one of that role. -/
def tokenRoles : List (Role × Nat) := [
  (.plain, 0x7fffffffffffffffffffffffffffffffffffffffffffffffffffffffffffffffff6),
  (.word, 0x12020000000000000000000001600800002274428209402005048a140000000000a)]

/-- The same for other symbols. -/
def ruleRoles : List (Role × Nat) := [
  (.plain, 0x4fffffaff7e1e6),
  (.name, 0x80000),
  (.constants, 0x8),
  (.lets, 0x10),
  (.earlierConstants, 0x20000000000000),
  (.earlierLets, 0x10000000000000),
  (.items, 0x10000000),
  (.header, 0x40000000),
  (.loop, 0x600),
  (.function, 0x1800),
  (.statement, 0x2100004)]

/-- The digit for the roles of the symbols in a set. -/
def digitOf (table : List (Role × Nat)) (set : Nat) : Nat :=
  ((List.range 14).find? (fun digit => rolesOf digit == (table.filter (·.2.testBit set)).map (·.1))).getD 0

def tokenDigits : Nat := packed 4 ((List.range 280).map (digitOf tokenRoles))

def ruleDigits : Nat := packed 4 ((List.range 64).map (digitOf ruleRoles))

/-! ### The pass -/

/-- A test of a number, which is evaluated first so that the same test is not made twice. -/
def onValue (test : Nat → Bool) : Nat → Bool
  | 0 => test 0
  | n + 1 => test (n + 1)

/-- What is asked of a step to another state with a symbol of the roles of a digit, where a pattern tells what is below. -/
def testStep (state : StateId) (digit : Nat) (goal : StateId) : Bool :=
  !Nat.beq state StateId.recovery && !Nat.beq goal StateId.recovery && !Nat.beq goal StateId.start &&
    onValue (fun pattern => onValue (covers 16 pattern) (digit + 16 * recent state)) (recent goal)

/-- Whether a rule takes all that a pattern stands for as its parts, the last of which is on top. -/
def testParts (symbol : Symbol) (production : Nat) : Nat → Nat → Bool
  | 0, _ => true
  | part + 1, pattern =>
    (rolesOf (pattern % 16)).all (Production.takes symbol production part) &&
      testParts symbol production part (pattern / 16)

/-- A rule as a number. -/
def ruleCode (symbol : Symbol) (count production : Nat) : Nat := symbol + 256 * (count + 16 * production)

/-- What is asked of a rule that is reduced by: it takes what there can be, and a repetition ends with a part of its own or with
one that no name is seen through. -/
def testReduction (pattern code : Nat) : Bool :=
  let symbol : Symbol := code % 256
  let count := code / 256 % 16
  Nat.ble Symbol.tokenCount symbol && Nat.blt symbol Symbol.ruleCount && (symbol.role != .name || Nat.beq count 1) &&
    (symbol != Symbol.markup || Nat.beq (code / 4096) 0) && testParts symbol (code / 4096) count pattern &&
    (!symbol.isRepetition || (rolesOf (pattern % 16)).all (fun r => r == .plain || r == .statement || r == symbol.role))

/-- An action as a number: its kind in two bits, and what belongs to it. -/
def Action.code : Action → Nat
  | .shift goal | .shiftRepeat goal => 4 * goal + 1
  | .reduce symbol count production => 4 * ruleCode symbol count production + 2
  | .shiftExtra => 3
  | .accept | .recover => 0

/-- What is asked of an action in a state, with a token of a set. -/
def testAct (state set code : Nat) : Bool :=
  match code % 4 with
  | 0 => true
  | 1 => testStep state (digitAt 4 tokenDigits set) (code / 4) && !Nat.beq (code / 4) StateId.behindMarkup &&
      !(tokenSets.getD Symbol.finish 0).testBit set
  | 2 => !Nat.beq state StateId.recovery && onValue (fun pattern => onValue (testReduction pattern) (code / 4)) (recent state)
  | _ => !(tokenSets.getD Symbol.finish 0).testBit set

/-- The actions of an entry as a number. -/
def Entry.code (e : Entry) : Nat := packed 32 (e.actions.map Action.code)

/-- All entries as one number. An array is slow to look things up in while a proof is checked. -/
def entryCodes : Nat := packed 64 ((entries.toList.flatMap Array.toList).map Entry.code)

/-- What is asked of a group in the action map of a state. No entry has more than two actions. -/
def testActions (state set number : Nat) : Bool :=
  Nat.beq number 0 || onValue (fun code => testAct state set (digitAt 32 code 0) && testAct state set (digitAt 32 code 1))
    (digitAt 64 entryCodes (number - 1))

/-- What is asked of an entry: its number tells all about its actions. -/
def testCode (index : Nat) (e : Entry) : Bool :=
  Nat.beq (digitAt 64 entryCodes index) e.code && Nat.ble e.actions.length 2 && e.actions.all (fun action =>
    Nat.blt action.code (2 ^ 32) &&
      match action with
      | .reduce symbol count _ => Nat.blt symbol 256 && Nat.blt count 16
      | _ => true)

/-- What is asked of a group in the goto map of a state. -/
def testGotos (state set goal : Nat) : Bool :=
  testStep state (digitAt 4 ruleDigits set) goal && (!Nat.beq goal StateId.behindMarkup || Nat.beq state StateId.start)

/-- What the pass over the table finds. -/
structure Inspection : Prop where
  entries : testBlocks 128 testCode entries = true
  actions : testBlocks 64 (fun state row => testFrom (testActions state) groupLimit row.actions) stateBlocks = true
  gotos : testBlocks 64 (fun state row => testFrom (testGotos state) groupLimit row.gotos) stateBlocks = true
  tokens : ∀ token < Symbol.tokenCount, ∃ e ∈ tokenRoles, e.1 = Symbol.role token ∧ tokenSets.getD token 0 ||| e.2 = e.2
  rules : ∀ k < 84, ∃ e ∈ ruleRoles, e.1 = Symbol.role (Symbol.tokenCount + k) ∧ ruleSets.getD k 0 ||| e.2 = e.2
  tokenDigits : ∀ e ∈ tokenRoles, e.2 < 2 ^ 280 ∧
    ∀ set < 280, e.2.testBit set = true → e.1 ∈ rolesOf (digitAt 4 tokenDigits set)
  ruleDigits : ∀ e ∈ ruleRoles, e.2 < 2 ^ 64 ∧
    ∀ set < 64, e.2.testBit set = true → e.1 ∈ rolesOf (digitAt 4 ruleDigits set)

theorem inspection : Inspection := by constructor <;> decide +kernel

end Grammar
end Ucode

import Ucode.Grammar.LexMode

/-!
# Rows of the parse table

A row holds what the table says for one state. Both of its maps are written as groups of seven decimal digits,
four for a value and three for a set of symbols: in the action map the value is the number of an entry and
the set one of tokens, in the goto map it is a state and a set of other symbols. The groups are searched
from the lowest digits on, and no two sets of a map share a symbol.
-/
namespace Ucode.Grammar

/-- What the table says for one state. -/
structure StateRow where
  /-- The number of the state's lexical mode. -/
  mode : Nat
  actions : Nat
  gotos : Nat
  deriving Repr, Inhabited

namespace StateRow

/-- More groups than any row has. -/
def groupLimit : Nat := 32

/-- The value of the first group whose set is among `sets`, a set of numbers given by its bits. -/
def valueFrom (sets : Nat) : Nat → Nat → Option Nat
  | 0, _ => none
  | fuel + 1, groups =>
    if groups = 0 then none
    else if sets.testBit (groups % 1000) then some (groups / 1000 % 10000)
    else valueFrom sets fuel (groups / 10000000)

/-- For each token, the sets that hold it. -/
def tokenSets : Array Nat := #[
  0x400000000002516bf100282410a20000000002,
  0x12020000000000000000000001600800002274428209402005048a140000000000a,
  0x12,
  0x1600800002274428209402005048a1400000000022,
  0x1600800002274428209402005048a1400000000042,
  0x1600800002274428209402005048a1400000000042,
  0x1600800002274428209402005048a1400000000082,
  0x2000000000000000000082400000000002,
  0x801ebffffffffffdffffd1cda1fa2371c8d8bbd4426bf100282750a00000000002,
  0x1600800002274428209402005048a1400000000102,
  0x1600800002274428209402005048a1400000000202,
  0x400000000000000000000000400800002274428209402005048a1408840000002,
  0x1000000002100751cda00000214000000000001000000000100000000002,
  0x20080000000000020940200504801409040000002,
  0x4000000000000000000000002008000000000002094020050480140a040000002,
  0x1600800002274428209402005048a1400000000402,
  0x20080000000000020940200504801440040000002,
  0x37e01e510efd33ce8095a1fe2b75c0020028040000009048a1400000000002,
  0x1000000002100751cda00010294000000000000000000000000000000002,
  0x1600800002274428209402005048a1400000000802,
  0x4036400200001d1082800029fe7375cc80001058005000000750a00000001002,
  0x801000000002100751cda00100214000000000000000000000000000000002,
  0x20080000000000020940200504801480040000002,
  0x1004000000000000000000000000000000000000000000000000000000080000002,
  0x20000000000000000000001600800002274428209402005048a1400000002002,
  0x20080000000000020940200504801410040000002,
  0x4000000000000000000000080040001dd8bbd2516bf100282750a00000004002,
  0x10020600007f21c400000000086002009dd8bbd000000000000340000100000002,
  0x1200000000000000000000001400000002274428000000000000a0004000000002,
  0x3080000000000000000000001400000002274428000000000000a0004000000002,
  0x1600800002274428209402005048a1400000008002,
  0x1600800002274428209402005048a1400000010002,
  0x4000000000000000000000000000000000000000000000000000000000000000002,
  0x80000000000000000000000000002004000000000000000000000000000000002,
  0x100000000000000000000004000000220000008040000000088a1400000000002,
  0x1600800002274428209402005048a1400000020002,
  0xc00000000000000000000000000000004000000000000000000000000000000002,
  0x1600800002274428209402005048a1400000040002,
  0x2000000000000000000000000000000000000000000000000000000000000000000,
  0x20000000000000000000001600800002274428209402005048a1400000080002,
  0x20000000000000000000001600800002274428209402005048a1400000080002,
  0x20000000000000000000001600800002274428209402005048a1400000080002,
  0x20000000000000000000001600800002274428209402005048a1400000080002,
  0x1d80330c000000000000000000314200000000002,
  0x1d80330c000000000000000000314200000000002,
  0x1d80330c000000000000000000314200000000002,
  0x1d80330c000000000000000000314200000000002,
  0x1d80330c000000000000000000314200000000002,
  0x1d80330c000000000000000000314200000000002,
  0x1d80330c000000000000000000314200000000002,
  0x1d80330c000000000000000000314200000000002,
  0x1d80330c000000000000000000314200000000002,
  0x1d80330c000000000000000000314200000000002,
  0x1d80330c000000000000000000314200000000002,
  0x1d80330c000000000000000000314200000000002,
  0x1d80330c000000000000000000314200000000002,
  0x1d80330c000000000000000000314200000000002,
  0x3effffffff5efffd1cda1fe3375c0d8bbd0826bf100282750a00000000002,
  0x4003effffffff5efffd1cda9fe7375d4d8bbd2186bf100282750a00000100002,
  0x10801000000002100751cda00004214000000000000000000000000000000002,
  0x3effffffff5efffd1cda1fe3375c0d8bbd1026bf100282750a00000000002,
  0x2e024000000220074428049404005048a1400000000002,
  0x37eabf571ffdf7ce918da00000022888abd0424bf0010824a1400000000002,
  0x37eaffd73ffdffce91cda00000022888bbd0426bf0020824a1400000000002,
  0x37c016510ebd338e8084a0000002288023904201f0000904a1400000000002,
  0x37c016510ebd338e8084a0000002288023904201f0000904a1400000000002,
  0x2a024000000220064028048400041048a1400000000002,
  0x37ea9e571efdf3ce9185a00000022888a3d04243f0080824a1400000000002,
  0x2e024000000220074028049400101048a1400000000002,
  0x20000000000000000008005600800222020008200000001008a1400000200002,
  0x20000000000000000008005600800222020008200000001008a1400000200002,
  0x4000000220000008040000000088a1400000000002,
  0x37c012500e9d138e8004a0000002288003904201f0000204a1400000000002,
  0x37c00250061d13868000a0000002288001904201d0000404a1400000000002,
  0x8224000000220020028040000009048a1400000000002,
  0x37e01e510efd33ce8095a1fe3375c88023d04201f020082750a00000000002,
  0x28024000000220060028040400401048a1400000000002,
  0x37e21e551efdb3ce9085a1fe3375c88823d04203f080082750a00000000002,
  0x28024000000220060028040400401048a1400000000002,
  0x37e21e551efdb3ce9085a1fe3375c88823d04203f080082750a00000000002,
  0x37e01e510efd33ce8095a1fe3375c88023d04201f020082750a00000000002,
  0x8224000000220020028040000009048a1400000000002,
  0x37eeffdf7ffdffded1cda00000022898bbd0426bf8002824a1400000000002,
  0x40000000000000000000000800400002274428209402005048a1400000400002,
  0x4000000000000000000000080040001dd8bbd2516bf100282750a00000400002,
  0x4037400240041d1186800029fe7375cc80011058015000000750a00000800002,
  0x4037400240041d1186800029fe7375cc80011058015000000750a00000800002,
  0x20000000000000000000001600800002274428209402005048a1400001000002,
  0x180210c000000000000000000108200000000002,
  0x4,
  0x80040001dd8bbd2516bf100282750a00002000002,
  0x80040001dd8bbd2516bf100282750a00002000002,
  0x4000000000000000000000080040001dd8bbd2516bf100282750a00204000002,
  0x4000000000000000000000080040001dd8bbd2516bf100282750a00008000002,
  0x4000000000000000000000080040001dd8bbd2516bf100282750a00010000002,
  0x4000000000000000000000080040001dd8bbd2516bf100282750a00404000002,
  0x4000000000000000000000080040001dd8bbd2516bf100282750a00404000002,
  0x80040001dd8bbd2516bf100282750a00020000002,
  0x861a80780d81000000000011020000000000000000000000000000000000002,
  0x2400200000000820000000000000080000000004000001000000000000002,
  0x51047f800062100000000008a00000000000000000000000000000000000002,
  0x80000000008eff88000080041d49cd8bbd2586bf100282750a00002000002,
  0x80000000008eff88000080041d49cd8bbd2586bf100282750a00002000002,
  0x80000000008eff88000080041d49cd8bbd2586bf100282750a00002000002,
  0x2]

/-- For each symbol that is no token, the sets that hold it. -/
def ruleSets : Array Nat := #[
  0x2,
  0x82100004,
  0x2100004,
  0x2100004,
  0x100000,
  0x2100004,
  0x2100004,
  0x2100004,
  0x2100004,
  0x8,
  0x10,
  0x2100004,
  0x20,
  0x40,
  0x2100004,
  0x80,
  0x100,
  0x2100004,
  0x10000000,
  0x20000000,
  0x40000000,
  0x200,
  0x400,
  0x2100004,
  0x20000000000,
  0x800,
  0x1000,
  0x2100004,
  0x200000000000,
  0x400000000000,
  0x2100004,
  0x2100004,
  0x80000000000,
  0x4000000000,
  0x8000000000,
  0x10000000000,
  0x2100004,
  0x1000000000000,
  0x2000000000,
  0x2100004,
  0x802100004,
  0x2000,
  0x4000,
  0x4000,
  0x4000,
  0x2000,
  0x2000,
  0x8000,
  0x8000,
  0x10000,
  0x2000,
  0x2000,
  0x2000,
  0x2000,
  0x2000,
  0x8000000,
  0x4000,
  0x4000,
  0x200000,
  0x100000000,
  0x4000,
  0x400000,
  0x20000,
  0x4000,
  0x4000,
  0x40000,
  0x40000,
  0x40000000004000,
  0x800000,
  0x80000,
  0x4,
  0x20000000000000,
  0x10000000000000,
  0x1000000,
  0x40000000000,
  0x800000000000,
  0x100000000000,
  0x2000000000000,
  0x4000000,
  0x400000000,
  0x8000000000000,
  0x4000000000000,
  0x200000000,
  0x1000000000]

/-- The number of the entry for a token. -/
def actionNumber? (r : StateRow) (token : Symbol) : Option Nat :=
  valueFrom (tokenSets.getD token 0) groupLimit r.actions

/-- The state to go to behind a node that is no token. -/
def goto? (r : StateRow) (symbol : Symbol) : Option Nat :=
  valueFrom (ruleSets.getD (symbol - Symbol.tokenCount) 0) groupLimit r.gotos

end StateRow
end Ucode.Grammar

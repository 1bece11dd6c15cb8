import Ucode.Grammar.Automaton
import Ucode.Grammar.Field

/-!
# Languages

A language is what a descriptor of a grammar describes, once the descriptor was found fit for use. Descriptors are
referred to by handles: two handles are the same only if they refer to the same descriptor, whatever it holds.
-/
namespace Ucode

/-- The numbers that a grammar gives of itself. -/
structure Descriptor where
  version : UInt32
  symbols : UInt32
  aliases : UInt32
  states : UInt32
  fields : UInt32
  deriving DecidableEq, Repr, Inhabited

namespace Descriptor

/-- The descriptor of the grammar of this library. -/
def bundled : Descriptor :=
  { version := 14
    symbols := Symbol.ruleCount.toUInt32
    aliases := (Symbol.kindCount - Symbol.ruleCount).toUInt32
    states := Grammar.stateCount.toUInt32
    fields := Field.count.toUInt32 }

/-- The least version that can be used. -/
def minVersion : Nat := 13

/-- The greatest version that can be used. -/
def maxVersion : Nat := 14

/-- Whether the version can be used. -/
def isCompatible (d : Descriptor) : Bool := minVersion ≤ d.version.toNat && d.version.toNat ≤ maxVersion

/-- The kinds of nodes, aliases included, counted in machine words. -/
def kindCount (d : Descriptor) : Nat := (d.symbols + d.aliases).toNat

end Descriptor

/-- What a descriptor is referred to by. -/
inductive Handle where
  | null
  | bundled
  /-- Another descriptor; each has a number of its own. -/
  | other (number : Nat) (descriptor : Descriptor)
  deriving DecidableEq, Repr, Inhabited

namespace Handle

/-- The descriptor that a handle refers to. -/
def descriptor? : Handle → Option Descriptor
  | null => none
  | bundled => some Descriptor.bundled
  | other _ d => some d

/-- Whether a handle refers to nothing. -/
def isNull (h : Handle) : Bool := h.descriptor?.isNone

end Handle

/-- A language in use. -/
structure Language where
  handle : Handle
  version : Nat
  kindCount : Nat
  fieldCount : Nat
  stateCount : Nat
  deriving DecidableEq, Repr, Inhabited

namespace Language

/-- The language that a descriptor describes. -/
def of (handle : Handle) (d : Descriptor) : Language :=
  ⟨handle, d.version.toNat, d.kindCount, d.fields.toNat, d.states.toNat⟩

/-- The language of this library. -/
def bundled : Language := of .bundled Descriptor.bundled

/-- Two languages are the same if they have the same descriptor. -/
def isSame (a b : Language) : Bool := a.handle == b.handle

end Language
end Ucode

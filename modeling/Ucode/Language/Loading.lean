import Ucode.Language.Descriptor

/-!
# Loading languages

Loading checks a handle and reports what came of it. The bundled language is checked only once: it is kept, and
later loads hand it out again.
-/
namespace Ucode

/-- How much a report matters. -/
inductive Level where
  | error
  | debug
  | trace
  deriving DecidableEq, Repr

/-- A report with some numbers. -/
structure Event where
  level : Level
  message : String
  fields : List (String × Nat)
  deriving DecidableEq, Repr

/-- Why a handle cannot be used. -/
inductive LoadError where
  | nullHandle
  | incompatibleVersion (version min max : Nat)
  deriving DecidableEq, Repr

namespace LoadError

/-- What is reported about a handle that cannot be used. -/
def message : LoadError → String
  | nullHandle => "Error loading Ucode grammar: the grammar handle is null"
  | incompatibleVersion version min max =>
    "Error loading Ucode grammar: ABI version " ++ toString version ++ " is outside " ++ toString min ++ "..=" ++
      toString max

/-- What lies behind an error. -/
def cause? : LoadError → Option String
  | nullHandle => none
  | incompatibleVersion version min max =>
    some ("Incompatible language version " ++ toString version ++ ". Expected minimum " ++ toString min ++
      ", maximum " ++ toString max)

end LoadError

/-- What came of loading, and the reports made meanwhile. -/
structure Loading where
  result : Except LoadError Language
  events : List Event

namespace Handle

/-- Loads the language of a handle. -/
def load (h : Handle) : Loading :=
  match h.descriptor? with
  | none => ⟨.error .nullHandle, [⟨.error, "ucode grammar handle is null", []⟩]⟩
  | some d =>
    if d.isCompatible then
      let language := Language.of h d
      ⟨.ok language, [⟨.debug, "loaded ucode grammar",
        [("version", language.version), ("node_kinds", language.kindCount), ("fields", language.fieldCount)]⟩]⟩
    else
      ⟨.error (.incompatibleVersion d.version.toNat Descriptor.minVersion Descriptor.maxVersion),
        [⟨.error, "tree-sitter runtime rejected the ucode grammar", [("version", d.version.toNat)]⟩]⟩

end Handle

/-- What is kept between loads. -/
structure LoadCache where
  language : Option Language
  deriving DecidableEq, Repr

namespace LoadCache

/-- Before the first load. -/
def empty : LoadCache := ⟨none⟩

/-- Loads the bundled language, or hands it out again. A load that fails keeps nothing. -/
def load (cache : LoadCache) : LoadCache × Loading :=
  match cache.language with
  | some language => (cache, ⟨.ok language, [⟨.trace, "reusing cached ucode grammar", []⟩]⟩)
  | none =>
    let loading := Handle.bundled.load
    (match loading.result with
      | .ok language => ⟨some language⟩
      | .error _ => cache, loading)

end LoadCache
end Ucode

import Ucode.Grammar.Field
import Ucode.Grammar.Symbol

/-!
# Productions

Alternatives of a rule that name or rename their parts differently are told apart by a production number.
A production says which part belongs to which field and which part appears under an alias. Parts are
counted from 0, without the extras between them. Production 0 names and renames nothing.
-/
namespace Ucode

/-- A part that belongs to a field. An inherited field belongs to what is inside a hidden part. -/
structure FieldSlot where
  field : Field
  part : Nat
  inherited : Bool
  deriving DecidableEq, Repr, Inhabited

/-- What an alternative of a rule says about its parts. -/
structure Production where
  fields : List FieldSlot
  aliases : List (Nat × Symbol)
  deriving Repr, Inhabited

namespace Production

/-- The productions by number. -/
def table : Array Production := #[
  ⟨[], []⟩,  -- 0
  ⟨[⟨42, 0, false⟩], []⟩,  -- 1
  ⟨[⟨6, 0, true⟩, ⟨13, 0, true⟩, ⟨40, 0, true⟩], []⟩,  -- 2
  ⟨[⟨6, 0, true⟩, ⟨11, 0, true⟩, ⟨12, 0, true⟩, ⟨13, 0, true⟩, ⟨40, 0, true⟩], []⟩,  -- 3
  ⟨[⟨6, 0, true⟩, ⟨40, 0, true⟩], []⟩,  -- 4
  ⟨[⟨6, 0, true⟩, ⟨19, 0, true⟩, ⟨21, 0, true⟩, ⟨22, 0, true⟩, ⟨23, 0, true⟩, ⟨24, 0, true⟩, ⟨40, 0, true⟩,
    ⟨41, 0, true⟩, ⟨45, 0, true⟩], []⟩,  -- 5
  ⟨[⟨28, 0, true⟩, ⟨33, 0, true⟩, ⟨39, 0, true⟩, ⟨40, 0, true⟩], []⟩,  -- 6
  ⟨[], [(0, 203)]⟩,  -- 7
  ⟨[⟨33, 0, false⟩], [(0, 192)]⟩,  -- 8
  ⟨[⟨15, 1, true⟩, ⟨42, 0, false⟩, ⟨42, 1, true⟩], []⟩,  -- 9
  ⟨[⟨16, 1, false⟩, ⟨34, 0, false⟩], []⟩,  -- 10
  ⟨[⟨24, 0, false⟩, ⟨28, 1, false⟩], []⟩,  -- 11
  ⟨[⟨38, 0, true⟩], []⟩,  -- 12
  ⟨[⟨37, 0, false⟩], [(0, 194)]⟩,  -- 13
  ⟨[⟨9, 0, false⟩], [(0, 201)]⟩,  -- 14
  ⟨[⟨8, 1, false⟩, ⟨20, 1, true⟩, ⟨24, 1, true⟩, ⟨28, 1, true⟩], [(1, 197)]⟩,  -- 15
  ⟨[⟨20, 1, true⟩, ⟨24, 1, true⟩, ⟨26, 1, false⟩, ⟨28, 1, true⟩], [(1, 199)]⟩,  -- 16
  ⟨[⟨17, 1, false⟩, ⟨28, 1, true⟩, ⟨33, 1, true⟩, ⟨39, 1, true⟩, ⟨40, 1, true⟩], [(1, 198)]⟩,  -- 17
  ⟨[⟨43, 1, true⟩], []⟩,  -- 18
  ⟨[⟨3, 1, false⟩, ⟨31, 0, false⟩], []⟩,  -- 19
  ⟨[⟨3, 1, false⟩], []⟩,  -- 20
  ⟨[⟨20, 0, true⟩, ⟨24, 0, true⟩, ⟨28, 0, true⟩], []⟩,  -- 21
  ⟨[⟨3, 0, false⟩, ⟨31, 1, false⟩], []⟩,  -- 22
  ⟨[⟨3, 1, false⟩, ⟨17, 0, false⟩, ⟨38, 1, true⟩], []⟩,  -- 23
  ⟨[⟨15, 0, false⟩, ⟨15, 1, true⟩], []⟩,  -- 24
  ⟨[⟨15, 0, true⟩, ⟨15, 1, true⟩, ⟨42, 0, true⟩, ⟨42, 1, true⟩], []⟩,  -- 25
  ⟨[⟨45, 1, false⟩], []⟩,  -- 26
  ⟨[⟨20, 0, true⟩, ⟨20, 1, true⟩, ⟨28, 0, true⟩, ⟨28, 1, true⟩], []⟩,  -- 27
  ⟨[⟨28, 0, false⟩], []⟩,  -- 28
  ⟨[⟨20, 1, true⟩, ⟨24, 0, false⟩, ⟨28, 1, true⟩, ⟨28, 2, false⟩], []⟩,  -- 29
  ⟨[⟨6, 1, false⟩, ⟨40, 2, false⟩], []⟩,  -- 30
  ⟨[⟨21, 0, true⟩, ⟨22, 0, true⟩, ⟨23, 0, true⟩, ⟨24, 0, true⟩, ⟨45, 0, true⟩], []⟩,  -- 31
  ⟨[⟨6, 0, true⟩, ⟨19, 0, true⟩, ⟨41, 0, true⟩], []⟩,  -- 32
  ⟨[⟨33, 1, false⟩], [(1, 192)]⟩,  -- 33
  ⟨[⟨33, 0, true⟩, ⟨33, 1, true⟩], []⟩,  -- 34
  ⟨[⟨33, 0, false⟩], [(0, 190)]⟩,  -- 35
  ⟨[⟨38, 1, false⟩], []⟩,  -- 36
  ⟨[⟨40, 1, false⟩], []⟩,  -- 37
  ⟨[⟨35, 1, false⟩], []⟩,  -- 38
  ⟨[⟨28, 0, false⟩], [(0, 202)]⟩,  -- 39
  ⟨[⟨28, 0, false⟩], [(0, 200)]⟩,  -- 40
  ⟨[⟨9, 2, false⟩], []⟩,  -- 41
  ⟨[⟨10, 1, false⟩, ⟨38, 1, true⟩], []⟩,  -- 42
  ⟨[⟨15, 1, false⟩], []⟩,  -- 43
  ⟨[⟨25, 0, false⟩, ⟨31, 1, false⟩, ⟨36, 2, false⟩], [(1, 43)]⟩,  -- 44
  ⟨[⟨15, 0, true⟩, ⟨15, 1, true⟩], []⟩,  -- 45
  ⟨[⟨3, 2, false⟩, ⟨17, 0, false⟩, ⟨32, 1, false⟩, ⟨38, 2, true⟩], []⟩,  -- 46
  ⟨[⟨30, 0, false⟩, ⟨32, 1, false⟩, ⟨35, 2, false⟩], []⟩,  -- 47
  ⟨[⟨30, 0, false⟩, ⟨35, 2, false⟩], []⟩,  -- 48
  ⟨[⟨25, 0, false⟩, ⟨36, 2, false⟩], []⟩,  -- 49
  ⟨[⟨25, 0, false⟩, ⟨31, 1, false⟩, ⟨36, 2, false⟩], []⟩,  -- 50
  ⟨[⟨33, 0, true⟩, ⟨39, 0, true⟩, ⟨40, 2, false⟩], []⟩,  -- 51
  ⟨[⟨15, 2, false⟩, ⟨33, 0, true⟩, ⟨39, 0, true⟩], []⟩,  -- 52
  ⟨[⟨20, 3, false⟩, ⟨24, 0, false⟩, ⟨28, 1, false⟩], []⟩,  -- 53
  ⟨[⟨39, 2, false⟩], [(2, 193)]⟩,  -- 54
  ⟨[⟨33, 1, true⟩, ⟨33, 2, false⟩], [(2, 192)]⟩,  -- 55
  ⟨[⟨39, 1, false⟩], [(1, 191)]⟩,  -- 56
  ⟨[⟨33, 0, true⟩, ⟨33, 1, false⟩], [(1, 190)]⟩,  -- 57
  ⟨[⟨28, 0, false⟩, ⟨45, 2, false⟩], []⟩,  -- 58
  ⟨[⟨35, 1, false⟩, ⟨35, 2, false⟩], []⟩,  -- 59
  ⟨[⟨43, 0, false⟩], []⟩,  -- 60
  ⟨[⟨43, 1, false⟩], []⟩,  -- 61
  ⟨[⟨43, 0, true⟩, ⟨43, 1, true⟩], []⟩,  -- 62
  ⟨[⟨29, 2, false⟩], [(2, 201)]⟩,  -- 63
  ⟨[⟨27, 3, false⟩, ⟨43, 1, true⟩], []⟩,  -- 64
  ⟨[⟨27, 3, false⟩, ⟨29, 1, true⟩], []⟩,  -- 65
  ⟨[⟨9, 1, true⟩, ⟨27, 3, false⟩], []⟩,  -- 66
  ⟨[⟨10, 1, false⟩, ⟨10, 2, false⟩, ⟨38, 1, true⟩], []⟩,  -- 67
  ⟨[⟨38, 1, true⟩], []⟩,  -- 68
  ⟨[⟨10, 1, false⟩, ⟨10, 2, false⟩, ⟨38, 1, true⟩, ⟨38, 2, true⟩], []⟩,  -- 69
  ⟨[⟨38, 0, true⟩, ⟨38, 1, true⟩], []⟩,  -- 70
  ⟨[⟨18, 2, false⟩, ⟨30, 0, false⟩], []⟩,  -- 71
  ⟨[⟨15, 1, false⟩, ⟨42, 3, false⟩], []⟩,  -- 72
  ⟨[⟨20, 2, false⟩, ⟨28, 0, false⟩], []⟩,  -- 73
  ⟨[⟨20, 1, true⟩, ⟨20, 4, false⟩, ⟨24, 0, false⟩, ⟨28, 1, true⟩, ⟨28, 2, false⟩], []⟩,  -- 74
  ⟨[⟨6, 1, false⟩, ⟨40, 3, false⟩], []⟩,  -- 75
  ⟨[⟨6, 1, false⟩, ⟨13, 3, false⟩, ⟨13, 4, false⟩, ⟨40, 2, false⟩], []⟩,  -- 76
  ⟨[⟨41, 2, false⟩], []⟩,  -- 77
  ⟨[⟨6, 1, false⟩], []⟩,  -- 78
  ⟨[⟨19, 0, false⟩, ⟨20, 0, true⟩, ⟨24, 0, true⟩, ⟨28, 0, true⟩], [(0, 116)]⟩,  -- 79
  ⟨[⟨6, 2, true⟩, ⟨19, 2, true⟩, ⟨21, 2, true⟩, ⟨22, 2, true⟩, ⟨23, 2, true⟩, ⟨24, 2, true⟩, ⟨40, 4,
    false⟩, ⟨41, 2, true⟩, ⟨45, 2, true⟩], []⟩,  -- 80
  ⟨[⟨19, 0, false⟩], []⟩,  -- 81
  ⟨[⟨21, 0, false⟩, ⟨45, 2, false⟩], []⟩,  -- 82
  ⟨[⟨33, 1, true⟩, ⟨39, 3, false⟩], [(3, 193)]⟩,  -- 83
  ⟨[⟨33, 0, true⟩, ⟨39, 2, false⟩], [(2, 191)]⟩,  -- 84
  ⟨[⟨35, 1, false⟩, ⟨35, 2, false⟩, ⟨35, 3, false⟩], []⟩,  -- 85
  ⟨[⟨1, 2, false⟩, ⟨28, 0, false⟩], [(0, 202), (2, 201)]⟩,  -- 86
  ⟨[⟨1, 2, false⟩, ⟨9, 0, false⟩], [(0, 201), (2, 201)]⟩,  -- 87
  ⟨[⟨43, 1, true⟩, ⟨43, 2, false⟩], []⟩,  -- 88
  ⟨[⟨1, 2, false⟩, ⟨28, 0, false⟩], [(0, 200), (2, 196)]⟩,  -- 89
  ⟨[⟨9, 2, false⟩, ⟨28, 0, false⟩], [(0, 200), (2, 196)]⟩,  -- 90
  ⟨[⟨10, 1, false⟩, ⟨10, 2, false⟩, ⟨10, 3, false⟩, ⟨38, 1, true⟩, ⟨38, 2, true⟩], []⟩,  -- 91
  ⟨[⟨38, 1, true⟩, ⟨38, 2, true⟩], []⟩,  -- 92
  ⟨[⟨2, 4, false⟩, ⟨6, 0, false⟩, ⟨7, 2, false⟩], []⟩,  -- 93
  ⟨[⟨18, 3, false⟩, ⟨30, 0, false⟩, ⟨32, 1, false⟩], []⟩,  -- 94
  ⟨[⟨6, 1, false⟩, ⟨11, 4, true⟩, ⟨12, 4, true⟩, ⟨40, 3, false⟩], []⟩,  -- 95
  ⟨[⟨11, 0, true⟩, ⟨11, 1, true⟩, ⟨12, 0, true⟩, ⟨12, 1, true⟩], []⟩,  -- 96
  ⟨[⟨21, 1, false⟩, ⟨24, 0, false⟩, ⟨45, 3, false⟩], []⟩,  -- 97
  ⟨[⟨6, 1, false⟩, ⟨41, 3, false⟩], []⟩,  -- 98
  ⟨[⟨19, 0, false⟩, ⟨20, 0, true⟩, ⟨24, 0, true⟩, ⟨28, 0, true⟩, ⟨41, 3, false⟩], [(0, 116)]⟩,  -- 99
  ⟨[⟨6, 2, false⟩, ⟨19, 0, false⟩, ⟨20, 0, true⟩, ⟨24, 0, true⟩, ⟨28, 0, true⟩], [(0, 116)]⟩,  -- 100
  ⟨[⟨19, 0, false⟩, ⟨41, 3, false⟩], []⟩,  -- 101
  ⟨[⟨6, 2, false⟩, ⟨19, 0, false⟩], []⟩,  -- 102
  ⟨[⟨40, 4, false⟩], []⟩,  -- 103
  ⟨[⟨33, 2, true⟩, ⟨39, 2, true⟩], []⟩,  -- 104
  ⟨[⟨28, 1, false⟩], [(1, 189)]⟩,  -- 105
  ⟨[⟨28, 1, false⟩, ⟨45, 4, false⟩], []⟩,  -- 106
  ⟨[⟨15, 2, false⟩], []⟩,  -- 107
  ⟨[⟨4, 0, false⟩], []⟩,  -- 108
  ⟨[⟨9, 0, false⟩], []⟩,  -- 109
  ⟨[⟨9, 1, true⟩, ⟨27, 5, false⟩, ⟨43, 3, true⟩], []⟩,  -- 110
  ⟨[⟨9, 1, true⟩, ⟨27, 5, false⟩, ⟨29, 3, true⟩], []⟩,  -- 111
  ⟨[⟨6, 1, false⟩, ⟨13, 5, false⟩, ⟨40, 3, false⟩], []⟩,  -- 112
  ⟨[⟨6, 2, false⟩, ⟨19, 0, false⟩, ⟨20, 0, true⟩, ⟨24, 0, true⟩, ⟨28, 0, true⟩, ⟨41, 4, false⟩], [(0,
    116)]⟩,  -- 113
  ⟨[⟨6, 2, true⟩, ⟨19, 2, true⟩, ⟨21, 2, true⟩, ⟨22, 2, true⟩, ⟨23, 2, true⟩, ⟨24, 2, true⟩, ⟨40, 5,
    false⟩, ⟨41, 2, true⟩, ⟨45, 2, true⟩], []⟩,  -- 114
  ⟨[⟨6, 2, false⟩, ⟨19, 0, false⟩, ⟨41, 4, false⟩], []⟩,  -- 115
  ⟨[⟨22, 0, false⟩, ⟨23, 2, false⟩, ⟨45, 4, false⟩], []⟩,  -- 116
  ⟨[⟨33, 2, true⟩, ⟨39, 2, true⟩, ⟨40, 5, false⟩], []⟩,  -- 117
  ⟨[⟨28, 1, false⟩, ⟨40, 5, false⟩], [(1, 189)]⟩,  -- 118
  ⟨[⟨28, 1, false⟩, ⟨33, 3, true⟩, ⟨39, 3, true⟩], [(1, 189)]⟩,  -- 119
  ⟨[⟨4, 5, true⟩, ⟨9, 5, true⟩, ⟨15, 2, false⟩], []⟩,  -- 120
  ⟨[⟨4, 0, true⟩, ⟨4, 1, true⟩, ⟨9, 0, true⟩, ⟨9, 1, true⟩], []⟩,  -- 121
  ⟨[⟨5, 5, false⟩], []⟩,  -- 122
  ⟨[⟨44, 2, false⟩], []⟩,  -- 123
  ⟨[⟨11, 1, false⟩, ⟨12, 3, false⟩], []⟩,  -- 124
  ⟨[⟨6, 1, false⟩, ⟨11, 4, true⟩, ⟨12, 4, true⟩, ⟨13, 6, false⟩, ⟨40, 3, false⟩], []⟩,  -- 125
  ⟨[⟨22, 1, false⟩, ⟨23, 3, false⟩, ⟨24, 0, false⟩, ⟨45, 5, false⟩], []⟩,  -- 126
  ⟨[⟨28, 1, false⟩, ⟨33, 3, true⟩, ⟨39, 3, true⟩, ⟨40, 6, false⟩], [(1, 189)]⟩,  -- 127
  ⟨[⟨40, 2, false⟩], []⟩,  -- 128
  ⟨[⟨5, 6, false⟩, ⟨44, 2, false⟩], []⟩,  -- 129
  ⟨[⟨15, 1, false⟩, ⟨40, 3, false⟩], []⟩,  -- 130
  ⟨[⟨14, 5, false⟩], [(5, 195)]⟩,  -- 131
  ⟨[⟨5, 8, false⟩, ⟨14, 5, false⟩], [(5, 195)]⟩,  -- 132
  ⟨[⟨14, 6, false⟩, ⟨44, 2, false⟩], [(6, 195)]⟩,  -- 133
  ⟨[⟨5, 9, false⟩, ⟨14, 6, false⟩, ⟨44, 2, false⟩], [(6, 195)]⟩  -- 134
]

/-- The production with a number; numbers beyond the table say nothing. -/
def get (number : Nat) : Production := table.getD number ⟨[], []⟩

/-- The symbol under which a part appears, if not its own. -/
def alias? (p : Production) (part : Nat) : Option Symbol := p.aliases.lookup part

/-- The field of a part itself. -/
def field? (p : Production) (part : Nat) : Option Field :=
  (p.fields.find? (fun slot => !slot.inherited && slot.part == part)).map (·.field)

/-- Whether a part behind the given one belongs to a field too. -/
def hasLater (p : Production) (field : Field) (part : Nat) : Bool :=
  p.fields.any (fun slot => slot.field == field && part < slot.part)

end Production
end Ucode

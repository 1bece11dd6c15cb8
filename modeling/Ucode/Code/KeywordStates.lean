import Ucode.Code.Machine

/-!
# The machine of the keywords

It starts in state 0, and no arrow leads back to a state.
-/
namespace Ucode.Code

/-- Reads the reserved words. -/
def keywords : Machine := ⟨#[
  .starting none [('a', 1), ('b', 2), ('c', 3), ('d', 4), ('e', 5), ('f', 6), ('i', 7), ('l', 8), ('n', 9),
    ('r', 10), ('s', 11), ('t', 12), ('w', 13)],  -- 0
  .going [('s', 14)],  -- 1
  .going [('r', 15)],  -- 2
  .going [('a', 16), ('o', 17)],  -- 3
  .going [('e', 18)],  -- 4
  .going [('l', 19), ('n', 20), ('x', 21)],  -- 5
  .going [('a', 22), ('o', 23), ('r', 24), ('u', 25)],  -- 6
  .going [('f', 26), ('m', 27), ('n', 28)],  -- 7
  .going [('e', 29)],  -- 8
  .going [('u', 30)],  -- 9
  .going [('e', 31)],  -- 10
  .going [('w', 32)],  -- 11
  .going [('h', 33), ('r', 34)],  -- 12
  .going [('h', 35)],  -- 13
  .ending 33,  -- 14
  .going [('e', 36)],  -- 15
  .going [('s', 37), ('t', 38)],  -- 16
  .going [('n', 39)],  -- 17
  .going [('f', 40), ('l', 41)],  -- 18
  .going [('i', 42), ('s', 43)],  -- 19
  .going [('d', 44)],  -- 20
  .going [('p', 45)],  -- 21
  .going [('l', 46)],  -- 22
  .going [('r', 47)],  -- 23
  .going [('o', 48)],  -- 24
  .going [('n', 49)],  -- 25
  .ending 10,  -- 26
  .going [('p', 50)],  -- 27
  .ending 17,  -- 28
  .going [('t', 51)],  -- 29
  .going [('l', 52)],  -- 30
  .going [('t', 53)],  -- 31
  .going [('i', 54)],  -- 32
  .going [('i', 55)],  -- 33
  .going [('u', 56), ('y', 57)],  -- 34
  .going [('i', 58)],  -- 35
  .going [('a', 59)],  -- 36
  .going [('e', 60)],  -- 37
  .going [('c', 61)],  -- 38
  .going [('s', 62), ('t', 63)],  -- 39
  .going [('a', 64)],  -- 40
  .going [('e', 65)],  -- 41
  .going [('f', 66)],  -- 42
  .going [('e', 67)],  -- 43
  .going [('f', 68), ('i', 69), ('w', 70)],  -- 44
  .going [('o', 71)],  -- 45
  .going [('s', 72)],  -- 46
  .ending 19,  -- 47
  .going [('m', 73)],  -- 48
  .going [('c', 74)],  -- 49
  .going [('o', 75)],  -- 50
  .ending 9,  -- 51
  .going [('l', 76)],  -- 52
  .going [('u', 77)],  -- 53
  .going [('t', 78)],  -- 54
  .going [('s', 79)],  -- 55
  .going [('e', 80)],  -- 56
  .ending 31,  -- 57
  .going [('l', 81)],  -- 58
  .going [('k', 82)],  -- 59
  .ending 28,  -- 60
  .going [('h', 83)],  -- 61
  .going [('t', 84)],  -- 62
  .going [('i', 85)],  -- 63
  .going [('u', 86)],  -- 64
  .going [('t', 87)],  -- 65
  .ending 13,  -- 66
  .ending 11,  -- 67
  .going [('o', 88), ('u', 89)],  -- 68
  .going [('f', 90)],  -- 69
  .going [('h', 91)],  -- 70
  .going [('r', 92)],  -- 71
  .going [('e', 93)],  -- 72
  .ending 36,  -- 73
  .going [('t', 94)],  -- 74
  .going [('r', 95)],  -- 75
  .ending 41,  -- 76
  .going [('r', 96)],  -- 77
  .going [('c', 97)],  -- 78
  .ending 42,  -- 79
  .ending 39,  -- 80
  .going [('e', 98)],  -- 81
  .ending 4,  -- 82
  .ending 32,  -- 83
  .ending 6,  -- 84
  .going [('n', 99)],  -- 85
  .going [('l', 100)],  -- 86
  .going [('e', 101)],  -- 87
  .going [('r', 102)],  -- 88
  .going [('n', 103)],  -- 89
  .ending 14,  -- 90
  .going [('i', 104)],  -- 91
  .going [('t', 105)],  -- 92
  .ending 40,  -- 93
  .going [('i', 106)],  -- 94
  .going [('t', 107)],  -- 95
  .going [('n', 108)],  -- 96
  .going [('h', 109)],  -- 97
  .ending 15,  -- 98
  .going [('u', 110)],  -- 99
  .going [('t', 111)],  -- 100
  .ending 87,  -- 101
  .ending 22,  -- 102
  .going [('c', 112)],  -- 103
  .going [('l', 113)],  -- 104
  .ending 37,  -- 105
  .going [('o', 114)],  -- 106
  .ending 35,  -- 107
  .ending 3,  -- 108
  .ending 30,  -- 109
  .going [('e', 115)],  -- 110
  .ending 29,  -- 111
  .going [('t', 116)],  -- 112
  .going [('e', 117)],  -- 113
  .going [('n', 118)],  -- 114
  .ending 5,  -- 115
  .going [('i', 119)],  -- 116
  .ending 16,  -- 117
  .ending 24,  -- 118
  .going [('o', 120)],  -- 119
  .going [('n', 121)],  -- 120
  .ending 25  -- 121
]⟩

end Ucode.Code

import Ucode.Code.Machine

/-!
# The machine of the lexemes

The states 0, 2 and 8 are those to start from; 21 is where the flags of a regular expression are read.
-/
namespace Ucode.Code

/-- Reads the lexemes of the code. -/
def lexemes : Machine := ⟨#[
  .starting (some 9) [('!', 66), ('#', 1), ('%', 54), ('&', 46), ('(', 15), (')', 16), ('*', 20), ('+', 50),
    (',', 12), ('-', 52), ('.', 40), ('/', 53), (':', 13), (';', 14), ('<', 56), ('=', 11), ('>', 63),
    ('?', 41), ('[', 37), (']', 38), ('^', 47), ('{', 18), ('|', 48), ('}', 19), ('~', 67)] [(.letter, 73)],  -- 0
  .going [('!', 10)],  -- 1
  .starting none [('!', 65), ('(', 15), (')', 16), ('+', 49), ('-', 51), ('.', 6), ('/', 3), ('[', 37),
    (']', 38), ('{', 18), ('}', 19), ('~', 67)] [(.letter, 73)],  -- 2
  .going [('*', 5), ('/', 72)],  -- 3
  .going [('*', 4), ('/', 71)] [(.written, 5)],  -- 4
  .going [('*', 4)] [(.written, 5)],  -- 5
  .going [('.', 7)],  -- 6
  .going [('.', 17)],  -- 7
  .starting (some 9) [('!', 66), ('%', 54), ('&', 46), ('(', 15), (')', 16), ('*', 20), ('+', 50), (',', 12),
    ('-', 52), ('.', 39), ('/', 53), (':', 13), (';', 14), ('<', 56), ('=', 11), ('>', 63), ('?', 41),
    ('[', 37), (']', 38), ('^', 47), ('{', 18), ('|', 48), ('}', 19), ('~', 67)] [(.letter, 73)],  -- 8
  .ending 0,  -- 9
  .ending 2 [] [(.inLine, 10)],  -- 10
  .ending 7 [('=', 58), ('>', 70)],  -- 11
  .ending 8,  -- 12
  .ending 12,  -- 13
  .ending 18,  -- 14
  .ending 20,  -- 15
  .ending 21,  -- 16
  .ending 23,  -- 17
  .ending 26,  -- 18
  .ending 27,  -- 19
  .ending 34 [('*', 55), ('=', 24)],  -- 20
  .ending 38 [] [(.flag, 21)],  -- 21
  .ending 43,  -- 22
  .ending 44,  -- 23
  .ending 45,  -- 24
  .ending 46,  -- 25
  .ending 47,  -- 26
  .ending 48,  -- 27
  .ending 49,  -- 28
  .ending 50,  -- 29
  .ending 51,  -- 30
  .ending 52,  -- 31
  .ending 53,  -- 32
  .ending 54,  -- 33
  .ending 55,  -- 34
  .ending 56,  -- 35
  .ending 57,  -- 36
  .ending 58,  -- 37
  .ending 59,  -- 38
  .ending 60,  -- 39
  .ending 60 [('.', 7)],  -- 40
  .ending 61 [('.', 36), ('?', 64)],  -- 41
  .ending 62 [('=', 33)],  -- 42
  .ending 63 [('=', 34)],  -- 43
  .ending 64 [('=', 30)],  -- 44
  .ending 65 [('=', 31)],  -- 45
  .ending 66 [('&', 42), ('=', 28)],  -- 46
  .ending 67 [('=', 27)],  -- 47
  .ending 68 [('=', 29), ('|', 43)],  -- 48
  .ending 69 [('+', 68)],  -- 49
  .ending 69 [('+', 68), ('=', 22)],  -- 50
  .ending 70 [('-', 69)],  -- 51
  .ending 70 [('-', 69), ('=', 23)],  -- 52
  .ending 71 [('*', 5), ('/', 72), ('=', 25)],  -- 53
  .ending 72 [('=', 26)],  -- 54
  .ending 73 [('=', 32)],  -- 55
  .ending 74 [('<', 45), ('=', 57)],  -- 56
  .ending 75,  -- 57
  .ending 76 [('=', 59)],  -- 58
  .ending 77,  -- 59
  .ending 78 [('=', 61)],  -- 60
  .ending 79,  -- 61
  .ending 80,  -- 62
  .ending 81 [('=', 62), ('>', 44)],  -- 63
  .ending 82 [('=', 35)],  -- 64
  .ending 83,  -- 65
  .ending 83 [('=', 60)],  -- 66
  .ending 84,  -- 67
  .ending 85,  -- 68
  .ending 86,  -- 69
  .ending 88,  -- 70
  .ending 89,  -- 71
  .ending 89 [] [(.inComment, 72)],  -- 72
  .ending 1 [] [(.wordPart, 73)]  -- 73
]⟩

end Ucode.Code

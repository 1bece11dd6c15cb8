/-!
# Digits

The characters that are digits in a radix.
-/
namespace Ucode.Digit

/-- Digits to base 2. -/
def binary : List Char := ['0', '1']

/-- Digits to base 8. -/
def octal : List Char := ['0', '1', '2', '3', '4', '5', '6', '7']

/-- Digits to base 10. -/
def decimal : List Char := octal ++ ['8', '9']

/-- Digits to base 16, in both cases. -/
def hex : List Char := decimal ++ ['a', 'b', 'c', 'd', 'e', 'f', 'A', 'B', 'C', 'D', 'E', 'F']

end Ucode.Digit

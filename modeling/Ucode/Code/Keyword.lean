import Ucode.Code.KeywordStates

/-!
# Keywords

Whether a word is reserved is found out by a machine of its own.
-/
namespace Ucode.Code.Keyword

/-- The longest reserved word that begins a text, whatever follows it. -/
def read? (text : List CodePoint) : Option Reading := (keywords.run 0 Progress.none text).reading?

end Ucode.Code.Keyword

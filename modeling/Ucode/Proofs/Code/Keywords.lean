import Mathlib.Data.List.Perm.Basic
import Ucode.Code.Keyword
import Ucode.Proofs.Code.Machine

/-!
# Reserved words

The paths through the machine of the reserved words are their spellings, so a word is read as one of them exactly if it is
spelled like it, and neither a word that goes on behind a reserved word nor one that stops within it is taken for it.
-/
namespace Ucode.Code

open Template (Longest)

/-- A word starts with a letter and goes on with letters and digits. -/
structure IsWord (w : List CodePoint) : Prop where
  starts : ∃ c ∈ w.head?, isLetter c = true
  parts : ∀ c ∈ w, isWordPart c = true

theorem isWord_cons {c : CodePoint} {w : List CodePoint} :
    IsWord (c :: w) ↔ isLetter c = true ∧ ∀ d ∈ w, isWordPart d = true := by
  constructor
  · rintro ⟨⟨_, head, letter⟩, parts⟩
    cases head
    exact ⟨letter, fun d member => parts d (List.mem_cons_of_mem _ member)⟩
  · rintro ⟨letter, parts⟩
    exact ⟨⟨c, rfl, letter⟩, List.forall_mem_cons.mpr ⟨by rw [isWordPart, letter, Bool.true_or], parts⟩⟩

theorem letter_bounds {c : Nat} (letter : isLetter c = true) : 65 ≤ c ∧ c ≤ 122 := by
  simp only [isLetter, Char.reduceToNat, Bool.or_eq_true, Bool.and_eq_true, decide_eq_true_eq, beq_iff_eq] at letter
  have bounds : (65 ≤ c ∧ c ≤ 90 ∨ c = 95) ∨ 97 ≤ c ∧ c ≤ 122 := letter
  omega

theorem not_isBlank_of_isLetter {c : Nat} (letter : isLetter c = true) : CodePoint.isBlank c = false := by
  have bounds := letter_bounds letter
  have low : ¬(c ≤ 13) ∧ ¬c = 32 := by omega
  simp [CodePoint.isBlank, low.1, low.2]

theorem IsWord.takeWhile_isBlank {w : List CodePoint} (word : IsWord w) (rest : List CodePoint) :
    (w ++ rest).takeWhile CodePoint.isBlank = [] := by
  obtain ⟨c, head, letter⟩ := word.starts
  obtain ⟨others, rfl⟩ := List.head?_eq_some_iff.mp head
  rw [List.cons_append, List.takeWhile_cons_of_neg (by simp [not_isBlank_of_isLetter letter])]

theorem IsWord.dropWhile_isBlank {w : List CodePoint} (word : IsWord w) (rest : List CodePoint) :
    (w ++ rest).dropWhile CodePoint.isBlank = w ++ rest := by
  have whole := List.takeWhile_append_dropWhile (p := CodePoint.isBlank) (l := w ++ rest)
  rwa [word.takeWhile_isBlank rest, List.nil_append] at whole

/-- A word begins a text that goes on behind a word only up to the end of that word. -/
theorem IsWord.length_le {v w rest : List CodePoint} (word : IsWord v)
    (ends : ∀ c ∈ rest.head?, isWordPart c = false) (stands : v <+: w ++ rest) : v.length ≤ w.length := by
  by_contra longer
  -- A longer word would hold the first code point behind the other one.
  obtain ⟨behind, rfl⟩ := List.prefix_of_prefix_length_le (List.prefix_append w rest) stands (by omega)
  cases behind with
  | nil => simp at longer
  | cons c behind =>
    obtain ⟨others, rfl⟩ := (List.prefix_append_right_inj w).mp stands
    have part := word.parts c (by simp)
    rw [ends c rfl] at part
    cases part

/-- Characters and the symbol that they spell. -/
structure Spelling where
  characters : List Char
  symbol : Symbol
  deriving DecidableEq, Repr

/-- The characters as a text. -/
def Spelling.text (s : Spelling) : List CodePoint := s.characters.map Char.toNat

namespace Spelling

/-- The path on which a spelling is read. -/
def path (k : Spelling) : List Label × Machine.Goal := (k.characters.map .only, .symbol k.symbol)

theorem along_path {m : Machine} {s : Symbol} {w : List CodePoint} (k : Spelling) :
    m.Along k.path s w ↔ k.symbol = s ∧ k.text = w := by
  rw [path, Machine.along_only]
  simp only [Machine.along_symbol, text]
  constructor
  · rintro ⟨_, rfl, same, rfl⟩
    exact ⟨same, (List.append_nil _).symm⟩
  · rintro ⟨same, rfl⟩
    exact ⟨[], (List.append_nil _).symm, same, rfl⟩

end Spelling

namespace Keyword

/-- The reserved words, longer ones first. -/
def all : List Spelling := [
  ⟨['e', 'n', 'd', 'f', 'u', 'n', 'c', 't', 'i', 'o', 'n'], 25⟩,
  ⟨['c', 'o', 'n', 't', 'i', 'n', 'u', 'e'], 5⟩,
  ⟨['e', 'n', 'd', 'w', 'h', 'i', 'l', 'e'], 16⟩,
  ⟨['f', 'u', 'n', 'c', 't', 'i', 'o', 'n'], 24⟩,
  ⟨['d', 'e', 'f', 'a', 'u', 'l', 't'], 29⟩,
  ⟨['d', 'e', 'l', 'e', 't', 'e'], 87⟩,
  ⟨['e', 'n', 'd', 'f', 'o', 'r'], 22⟩,
  ⟨['e', 'x', 'p', 'o', 'r', 't'], 37⟩,
  ⟨['i', 'm', 'p', 'o', 'r', 't'], 35⟩,
  ⟨['r', 'e', 't', 'u', 'r', 'n'], 3⟩,
  ⟨['s', 'w', 'i', 't', 'c', 'h'], 30⟩,
  ⟨['b', 'r', 'e', 'a', 'k'], 4⟩,
  ⟨['c', 'a', 't', 'c', 'h'], 32⟩,
  ⟨['c', 'o', 'n', 's', 't'], 6⟩,
  ⟨['e', 'n', 'd', 'i', 'f'], 14⟩,
  ⟨['f', 'a', 'l', 's', 'e'], 40⟩,
  ⟨['w', 'h', 'i', 'l', 'e'], 15⟩,
  ⟨['c', 'a', 's', 'e'], 28⟩,
  ⟨['e', 'l', 'i', 'f'], 13⟩,
  ⟨['e', 'l', 's', 'e'], 11⟩,
  ⟨['f', 'r', 'o', 'm'], 36⟩,
  ⟨['n', 'u', 'l', 'l'], 41⟩,
  ⟨['t', 'h', 'i', 's'], 42⟩,
  ⟨['t', 'r', 'u', 'e'], 39⟩,
  ⟨['f', 'o', 'r'], 19⟩,
  ⟨['l', 'e', 't'], 9⟩,
  ⟨['t', 'r', 'y'], 31⟩,
  ⟨['a', 's'], 33⟩,
  ⟨['i', 'f'], 10⟩,
  ⟨['i', 'n'], 17⟩]

theorem certificate : keywords.Settles ∧ keywords.Certified 0 none [] 12 (all.map Spelling.path) := by decide +kernel

theorem accepts_iff {s : Symbol} {w : List CodePoint} : keywords.Accepts 0 s w ↔ ∃ k ∈ all, k.symbol = s ∧ k.text = w := by
  simp only [certificate.2.accepts_iff, List.mem_map, exists_exists_and_eq_and, Spelling.along_path]

/-- What is read is the longest reserved word behind the blanks. -/
theorem read?_eq_some_iff (text : List CodePoint) (r : Reading) :
    Keyword.read? text = some r ↔ r.start = (text.takeWhile CodePoint.isBlank).length ∧
      ∃ w, Longest (keywords.Language 0) (text.dropWhile CodePoint.isBlank) w ∧ keywords.Accepts 0 r.symbol w ∧
        r.stop = r.start + w.length := by
  obtain ⟨settles, certified⟩ := certificate
  have reading := Machine.reading_iff settles certified.toIsStart text r
  simp only [certified.last, reduceCtorEq, false_and, and_false, false_or] at reading
  rw [Keyword.read?, reading]

theorem exists_of_read? {text : List CodePoint} {r : Reading} (found : Keyword.read? text = some r) :
    ∃ k ∈ all, k.symbol = r.symbol := by
  obtain ⟨_, w, _, accepts, _⟩ := (read?_eq_some_iff text r).mp found
  obtain ⟨k, member, symbol, _⟩ := accepts_iff.mp accepts
  exact ⟨k, member, symbol⟩

theorem isWord {k : Spelling} (member : k ∈ all) : IsWord k.text := by
  have checked : ∀ k ∈ all, (∃ c ∈ k.text.head?, isLetter c = true) ∧ ∀ c ∈ k.text, isWordPart c = true := by
    decide
  exact ⟨(checked k member).1, (checked k member).2⟩

/-- The reserved words with the kinds of their symbols. -/
def kinds : List (String × String) := [
  ("as", "as"), ("break", "break_statement"), ("case", "case"), ("catch", "catch"), ("const", "_variable_kind"),
  ("continue", "continue_statement"), ("default", "default"), ("delete", "delete"), ("elif", "elif"), ("else", "else"),
  ("endfor", "endfor"), ("endfunction", "endfunction"), ("endif", "endif"), ("endwhile", "endwhile"), ("export", "export"),
  ("false", "false"), ("for", "for"), ("from", "from"), ("function", "function"), ("if", "if"), ("import", "import"),
  ("in", "in"), ("let", "_variable_kind"), ("null", "null"), ("return", "return"), ("switch", "switch"), ("this", "this"),
  ("true", "true"), ("try", "try"), ("while", "while")]

theorem perm_kinds : (all.map fun k => (String.ofList k.characters, k.symbol.kind)).Perm kinds := by decide +kernel

variable {w rest : List CodePoint}

theorem reads_iff (word : IsWord w) (ends : ∀ c ∈ rest.head?, isWordPart c = false) (r : Reading) :
    Keyword.read? (w ++ rest) = some r ∧ r.stop = w.length ↔ ∃ k ∈ all, k.text = w ∧ r = ⟨k.symbol, 0, w.length⟩ := by
  rw [read?_eq_some_iff, word.takeWhile_isBlank rest, word.dropWhile_isBlank rest]
  constructor
  · rintro ⟨⟨start, v, longest, accepts, stop⟩, whole⟩
    have length : v.length = w.length := by rw [← whole, stop, start, List.length_nil, Nat.zero_add]
    have same : v = w :=
      (List.prefix_of_prefix_length_le longest.stands (List.prefix_append w rest) length.le).eq_of_length length
    -- What was found ends where the word ends, so it is the whole word.
    obtain ⟨k, member, symbol, text⟩ := accepts_iff.mp accepts
    have begins : r.start = 0 := start
    exact ⟨k, member, text.trans same, by rw [symbol, ← whole, ← begins]⟩
  · rintro ⟨k, member, rfl, rfl⟩
    have accepts := accepts_iff.mpr ⟨k, member, rfl, rfl⟩
    refine ⟨⟨rfl, k.text, ⟨List.prefix_append _ _, ⟨_, accepts⟩, fun v stands language => ?_⟩, accepts, ?_⟩, rfl⟩
    · obtain ⟨s, accepts⟩ := language
      obtain ⟨k, member, _, rfl⟩ := accepts_iff.mp accepts
      exact (isWord member).length_le ends stands
    · exact (Nat.zero_add _).symm

/-- Up to the end of a word a reserved word is read exactly if the word is spelled like it. -/
theorem read?_word (word : IsWord w) (ends : ∀ c ∈ rest.head?, isWordPart c = false) :
    (∀ r, Keyword.read? (w ++ rest) = some r ∧ r.stop = w.length ↔
      ∃ k ∈ all, k.text = w ∧ r = ⟨k.symbol, 0, w.length⟩) ∧
    (all.map fun k => (String.ofList k.characters, k.symbol.kind)).Perm kinds ∧ (all.map Spelling.symbol).Nodup :=
  ⟨reads_iff word ends, perm_kinds, by decide⟩

/-- `endfor` is read in front of a bracket, and nothing is read of `endfo` up to its end. -/
theorem read?_endfor : Keyword.read? (['e', 'n', 'd', 'f', 'o', 'r', '('].map Char.toNat) = some ⟨22, 0, 6⟩ ∧
    ∀ r ∈ Keyword.read? (['e', 'n', 'd', 'f', 'o', '('].map Char.toNat), r.stop ≠ 5 := by
  have ends : ∀ c ∈ (['('].map Char.toNat).head?, isWordPart c = false := by decide
  have whole : IsWord (['e', 'n', 'd', 'f', 'o', 'r'].map Char.toNat) := ⟨by decide, by decide⟩
  have part : IsWord (['e', 'n', 'd', 'f', 'o'].map Char.toNat) := ⟨by decide, by decide⟩
  refine ⟨(((read?_word whole ends).1 _).mpr ⟨⟨['e', 'n', 'd', 'f', 'o', 'r'], 22⟩, by decide, rfl, rfl⟩).1, ?_⟩
  intro r read stop
  obtain ⟨k, member, same, _⟩ := ((read?_word part ends).1 r).mp ⟨read, stop⟩
  have differ : ∀ k ∈ all, k.text ≠ ['e', 'n', 'd', 'f', 'o'].map Char.toNat := by decide
  exact differ k member same

end Keyword
end Ucode.Code

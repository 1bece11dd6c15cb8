import Mathlib.Data.List.Infix
import Ucode.Code.Lexeme
import Ucode.Proofs.Code.Keywords

/-!
# The lexemes of the code

`Lexeme` says what the lexemes of a mode are, and the machine finds the longest one behind the blanks (`read?_longest`).
All states but those within a block comment are settled by the paths of the machine; `Closes` is what is accepted there.
-/
namespace Ucode.Code

open Template (Longest)

variable {mode : Mode} {s : Symbol} {c : CodePoint} {w text : List CodePoint}

/-- Punctuation behind an operand. -/
def operatorSpellings : List Spelling := [
  ⟨['!', '=', '='], 79⟩, ⟨['&', '&', '='], 54⟩, ⟨['*', '*', '='], 53⟩, ⟨['<', '<', '='], 52⟩,
  ⟨['=', '=', '='], 77⟩, ⟨['>', '>', '='], 51⟩, ⟨['?', '?', '='], 56⟩, ⟨['|', '|', '='], 55⟩,
  ⟨['!', '='], 78⟩, ⟨['%', '='], 47⟩, ⟨['&', '&'], 62⟩, ⟨['&', '='], 49⟩, ⟨['*', '*'], 73⟩,
  ⟨['*', '='], 45⟩, ⟨['+', '+'], 85⟩, ⟨['+', '='], 43⟩, ⟨['-', '-'], 86⟩, ⟨['-', '='], 44⟩,
  ⟨['/', '='], 46⟩, ⟨['<', '<'], 65⟩, ⟨['<', '='], 75⟩, ⟨['=', '='], 76⟩, ⟨['=', '>'], 88⟩,
  ⟨['>', '='], 80⟩, ⟨['>', '>'], 64⟩, ⟨['?', '.'], 57⟩, ⟨['?', '?'], 82⟩, ⟨['^', '='], 48⟩,
  ⟨['|', '='], 50⟩, ⟨['|', '|'], 63⟩, ⟨['!'], 83⟩, ⟨['%'], 72⟩, ⟨['&'], 66⟩, ⟨['('], 20⟩, ⟨[')'], 21⟩,
  ⟨['*'], 34⟩, ⟨['+'], 69⟩, ⟨[','], 8⟩, ⟨['-'], 70⟩, ⟨['.'], 60⟩, ⟨['/'], 71⟩, ⟨[':'], 12⟩, ⟨[';'], 18⟩,
  ⟨['<'], 74⟩, ⟨['='], 7⟩, ⟨['>'], 81⟩, ⟨['?'], 61⟩, ⟨['['], 58⟩, ⟨[']'], 59⟩, ⟨['^'], 67⟩, ⟨['{'], 26⟩,
  ⟨['|'], 68⟩, ⟨['}'], 27⟩, ⟨['~'], 84⟩]

/-- Punctuation before an operand. -/
def operandSpellings : List Spelling := [
  ⟨['+', '+'], 85⟩, ⟨['-', '-'], 86⟩, ⟨['!'], 83⟩, ⟨['('], 20⟩, ⟨[')'], 21⟩, ⟨['+'], 69⟩, ⟨['-'], 70⟩,
  ⟨['['], 58⟩, ⟨[']'], 59⟩, ⟨['{'], 26⟩, ⟨['}'], 27⟩, ⟨['~'], 84⟩]

/-- The mark of a parameter or an element that stands for several. -/
def ellipsis : Spelling := ⟨['.', '.', '.'], 23⟩

/-- The mark that opens the first line of a script. -/
def hashBang : Spelling := ⟨['#', '!'], 2⟩

/-- The symbol of comments. -/
def commentSymbol : Symbol := 89

/-- The symbol of the flags of a regular expression. -/
def flagsSymbol : Symbol := 38

/-- The spellings of a mode. -/
def Mode.spellings : Mode → List Spelling
  | any => ellipsis :: operatorSpellings
  | operand => ellipsis :: operandSpellings
  | operator => operatorSpellings
  | flags => []

/-- What closes a block comment: everything up to the first `*/`. -/
def Closes (w : List CodePoint) : Prop :=
  ∃ body, w = body ++ ['*', '/'].map Char.toNat ∧ (∀ c ∈ body, isWritten c = true) ∧
    ¬['*', '/'].map Char.toNat <:+: body ++ [Char.toNat '*']

/-- The lexemes of a mode with their symbols. -/
inductive Lexeme (mode : Mode) : Symbol → List CodePoint → Prop where
  | spelled {k : Spelling} (member : k ∈ mode.spellings) : Lexeme mode k.symbol k.text
  | word {w : List CodePoint} (word : IsWord w) : Lexeme mode Symbol.word w
  | lineComment {w : List CodePoint} (inside : ∀ c ∈ w, isInComment c = true) :
      Lexeme mode commentSymbol (['/', '/'].map Char.toNat ++ w)
  | blockComment {w : List CodePoint} (closes : Closes w) : Lexeme mode commentSymbol (['/', '*'].map Char.toNat ++ w)
  | hashBangLine {w : List CodePoint} (first : mode = .any) (inside : ∀ c ∈ w, isInLine c = true) :
      Lexeme mode hashBang.symbol (hashBang.text ++ w)

/-! ### Block comments -/

theorem not_closes_nil : ¬Closes [] := by
  rintro ⟨body, empty, _⟩
  simp at empty

/-- The closing mark stands first, or nothing that closes begins and the comment goes on. -/
theorem closes_cons : Closes (c :: w) ↔ c = Char.toNat '*' ∧ w = [Char.toNat '/'] ∨
    ¬(c = Char.toNat '*' ∧ w.head? = some (Char.toNat '/')) ∧ isWritten c = true ∧ Closes w := by
  constructor
  · rintro ⟨body, same, written, first⟩
    cases body with
    | nil =>
      obtain ⟨rfl, rfl⟩ := List.cons.inj same
      exact Or.inl ⟨rfl, rfl⟩
    | cons d body =>
      obtain ⟨rfl, rfl⟩ := List.cons.inj same
      obtain ⟨here, behind⟩ := List.forall_mem_cons.mp written
      rw [List.cons_append, List.infix_cons_iff, not_or] at first
      refine Or.inr ⟨?_, here, body, rfl, behind, first.2⟩
      -- A slash behind this star would close the comment here.
      rintro ⟨rfl, head⟩
      cases body with
      | nil => cases head
      | cons e body =>
        obtain rfl := Option.some.inj head
        exact first.1 ⟨body ++ [Char.toNat '*'], rfl⟩
  · rintro (⟨rfl, rfl⟩ | ⟨open', here, body, rfl, behind, first⟩)
    · exact ⟨[], rfl, nofun, by decide⟩
    · refine ⟨c :: body, rfl, List.forall_mem_cons.mpr ⟨here, behind⟩, ?_⟩
      rw [List.cons_append, List.infix_cons_iff, not_or]
      refine ⟨fun begins => open' ?_, first⟩
      obtain ⟨star, begins⟩ := List.cons_prefix_cons.mp begins
      refine ⟨star.symm, ?_⟩
      -- Behind the last code point of the body stands a star, so a slash can only be in the body.
      cases body with
      | nil => exact absurd begins (by decide)
      | cons e body => exact congrArg some (List.cons_prefix_cons.mp begins).1.symm

theorem closes_cons_of_ne (other : c ≠ Char.toNat '*') : Closes (c :: w) ↔ isWritten c = true ∧ Closes w := by
  rw [closes_cons, or_iff_right fun both => other both.1, and_iff_right fun both => other both.1]

theorem closes_star_slash : Closes (Char.toNat '*' :: Char.toNat '/' :: w) ↔ w = [] := by
  rw [closes_cons, or_iff_left fun both => both.1 ⟨rfl, rfl⟩]
  simp

theorem closes_star_of_ne (other : c ≠ Char.toNat '/') : Closes (Char.toNat '*' :: c :: w) ↔ Closes (c :: w) := by
  rw [closes_cons, or_iff_right fun both => other (List.cons.inj both.2).1,
    and_iff_right fun both => other (Option.some.inj both.2), and_iff_right (by decide)]

/-- The states in which a lexeme can go on for ever, and the one behind a block comment. -/
theorem loop_states :
    lexemes.state 4 = .going [('*', 4), ('/', 71)] [(.written, 5)] ∧ lexemes.state 5 = .going [('*', 4)] [(.written, 5)] ∧
      lexemes.state 10 = .ending hashBang.symbol [] [(.inLine, 10)] ∧
      lexemes.state Mode.flags.start = .ending flagsSymbol [] [(.flag, Mode.flags.start)] ∧
      lexemes.state 71 = .ending commentSymbol ∧ lexemes.state 72 = .ending commentSymbol [] [(.inComment, 72)] ∧
      lexemes.state 73 = .ending Symbol.word [] [(.wordPart, 73)] := by decide +kernel

/-- Within a block comment, and behind a `*` in it. -/
theorem accepts_closing : (lexemes.Accepts 5 s w ↔ commentSymbol = s ∧ Closes w) ∧
    (lexemes.Accepts 4 s w ↔ commentSymbol = s ∧ Closes (Char.toNat '*' :: w)) := by
  obtain ⟨starred, inside, _, _, closed, _, _⟩ := loop_states
  have nowhere (c : CodePoint) : (State.going [] []).next? c = none := rfl
  -- Both states at once: a star leads to the second one, and what is neither a star nor a slash back to the first.
  induction w with
  | nil =>
    have unclosed : ¬Closes [Char.toNat '*'] := by simp [closes_cons, not_closes_nil]
    rw [Machine.accepts_nil, Machine.accepts_nil, inside, starred]
    exact ⟨⟨nofun, fun both => absurd both.2 not_closes_nil⟩, ⟨nofun, fun both => absurd both.2 unclosed⟩⟩
  | cons c w ih =>
    rw [Machine.accepts_cons, Machine.accepts_cons, inside, starred]
    simp only [State.next?_going_mark, State.next?_going_other, nowhere, Label.fits]
    by_cases star : c = Char.toNat '*'
    · subst star
      rw [closes_star_of_ne (by decide)]
      simp [ih.2]
    · rw [if_neg star, if_neg star, closes_cons_of_ne star]
      by_cases slash : c = Char.toNat '/'
      · subst slash
        rw [closes_star_slash, if_pos rfl]
        exact ⟨by simp [isWritten, CodePoint.nul, ih.1], by simp [Machine.accepts_end closed]⟩
      · rw [closes_star_of_ne slash, if_neg slash, closes_cons_of_ne star]
        cases isWritten c <;> simp [ih.1]

/-! ### The paths of a mode -/

/-- The states in which a comment, a line or a word goes on. -/
def loops : List Nat := [5, 10, 72, 73]

/-- The paths of a mode: its spellings, and the ways into the loops. -/
def Mode.paths (mode : Mode) : List (List Label × Machine.Goal) :=
  mode.spellings.map Spelling.path ++
    [([.letter], .state 73), (['/', '/'].map .only, .state 72), (['/', '*'].map .only, .state 5)] ++
    if mode = .any then [(hashBang.characters.map .only, .state 10)] else []

theorem Mode.mem_paths {path : List Label × Machine.Goal} : path ∈ mode.paths ↔ (∃ k ∈ mode.spellings, k.path = path) ∨
    path = ([.letter], .state 73) ∨ path = (['/', '/'].map .only, .state 72) ∨ path = (['/', '*'].map .only, .state 5) ∨
      mode = .any ∧ path = (hashBang.characters.map .only, .state 10) := by
  rw [Mode.paths, List.append_assoc, List.mem_append, List.mem_append, List.mem_map]
  split_ifs with first <;> simp [first, or_assoc]

/-- What the end of the text is read as. -/
def Mode.last : Mode → Option Symbol
  | any | operator => some Symbol.finish
  | operand | flags => none

namespace Lexeme

theorem certificate : lexemes.Settles ∧ ∀ mode ∈ [Mode.any, .operand, .operator],
    lexemes.Certified mode.start mode.last loops 5 mode.paths := by decide +kernel

theorem symbol_of_flags {text : List CodePoint} {r : Reading} (found : read? .flags text = some r) : r.symbol = flagsSymbol := by
  obtain ⟨_, _, _, loop, _, _, _⟩ := loop_states
  have plain : (lexemes.state Mode.flags.start).isPlain = true := by rw [loop]; rfl
  have read := ((Machine.reading?_eq_some_iff _ _).mp found).1
  have finds : lexemes.Finds Mode.flags.start text Progress.none _ := (Machine.run_longest certificate.1 (Or.inl plain)).2
  rcases finds with ⟨s, w, _, accepts, same⟩ | ⟨_, same⟩
  · rw [advance, same] at read
    rw [((Machine.accepts_loop loop).mp accepts).1, (Prod.mk.inj (Option.some.inj read)).1]
  · rw [advance, same] at read
    cases read

theorem along_word : lexemes.Along ([.letter], .state 73) s w ↔ Symbol.word = s ∧ IsWord w := by
  obtain ⟨_, _, _, _, _, _, loop⟩ := loop_states
  simp only [Machine.along_cons, Machine.along_state, Machine.accepts_loop loop]
  constructor
  · rintro ⟨c, v, rfl, letter, same, parts⟩
    exact ⟨same, isWord_cons.mpr ⟨letter, parts⟩⟩
  · rintro ⟨same, word⟩
    obtain ⟨c, head, _⟩ := word.starts
    obtain ⟨v, rfl⟩ := List.head?_eq_some_iff.mp head
    exact ⟨c, v, rfl, (isWord_cons.mp word).1, same, (isWord_cons.mp word).2⟩

theorem along_lineComment : lexemes.Along (['/', '/'].map .only, .state 72) s w ↔
    ∃ v, w = ['/', '/'].map Char.toNat ++ v ∧ commentSymbol = s ∧ ∀ c ∈ v, isInComment c = true := by
  obtain ⟨_, _, _, _, _, loop, _⟩ := loop_states
  simp only [Machine.along_only, Machine.along_state, Machine.accepts_loop loop, Label.fits]

theorem along_blockComment : lexemes.Along (['/', '*'].map .only, .state 5) s w ↔
    ∃ v, w = ['/', '*'].map Char.toNat ++ v ∧ commentSymbol = s ∧ Closes v := by
  simp only [Machine.along_only, Machine.along_state, accepts_closing]

theorem along_hashBangLine : lexemes.Along (hashBang.characters.map .only, .state 10) s w ↔
    ∃ v, w = hashBang.text ++ v ∧ hashBang.symbol = s ∧ ∀ c ∈ v, isInLine c = true := by
  obtain ⟨_, _, loop, _, _, _, _⟩ := loop_states
  simp only [Machine.along_only, Machine.along_state, Machine.accepts_loop loop, Label.fits, Spelling.text]

variable (code : mode ≠ .flags)
include code

theorem certified : lexemes.Certified mode.start mode.last loops 5 mode.paths :=
  certificate.2 mode (by cases mode <;> first | decide | contradiction)

theorem accepts_iff : lexemes.Accepts mode.start s w ↔ Lexeme mode s w := by
  simp only [(certified code).accepts_iff, Mode.mem_paths]
  -- One kind of path for each kind of lexeme.
  constructor
  · rintro ⟨path, ⟨k, member, rfl⟩ | rfl | rfl | rfl | ⟨first, rfl⟩, along⟩
    · obtain ⟨rfl, rfl⟩ := (Spelling.along_path k).mp along
      exact .spelled member
    · obtain ⟨rfl, word⟩ := along_word.mp along
      exact .word word
    · obtain ⟨v, rfl, rfl, inside⟩ := along_lineComment.mp along
      exact .lineComment inside
    · obtain ⟨v, rfl, rfl, closes⟩ := along_blockComment.mp along
      exact .blockComment closes
    · obtain ⟨v, rfl, rfl, inside⟩ := along_hashBangLine.mp along
      exact .hashBangLine first inside
  · rintro (⟨member⟩ | word | inside | closes | ⟨first, inside⟩)
    · exact ⟨_, Or.inl ⟨_, member, rfl⟩, (Spelling.along_path _).mpr ⟨rfl, rfl⟩⟩
    · exact ⟨_, Or.inr (Or.inl rfl), along_word.mpr ⟨rfl, word⟩⟩
    · exact ⟨_, Or.inr (Or.inr (Or.inl rfl)), along_lineComment.mpr ⟨_, rfl, rfl, inside⟩⟩
    · exact ⟨_, Or.inr (Or.inr (Or.inr (Or.inl rfl))), along_blockComment.mpr ⟨_, rfl, rfl, closes⟩⟩
    · exact ⟨_, Or.inr (Or.inr (Or.inr (Or.inr ⟨first, rfl⟩))), along_hashBangLine.mpr ⟨_, rfl, rfl, inside⟩⟩

omit code in
/-- At the opening of a block comment that nothing closes only the slash is a lexeme. -/
theorem eq_slash {inner : List CodePoint} (unclosed : ¬['*', '/'].map Char.toNat <:+: inner) (lexeme : Lexeme mode s w)
    (stands : w <+: ['/', '*'].map Char.toNat ++ inner) : mode ≠ .operand ∧ s = 71 ∧ w = [Char.toNat '/'] := by
  -- Among the spellings only the slash begins like a comment; of the other lexemes only a closed comment does.
  cases lexeme with
  | @spelled k member =>
    have spellings : ∀ k ∈ mode.spellings, k.text.take 2 <+: ['/', '*'].map Char.toNat →
        mode ≠ .operand ∧ k.symbol = 71 ∧ k.text = [Char.toNat '/'] := by
      cases mode <;> decide
    exact spellings k member (List.IsPrefix.take stands 2)
  | word word =>
    obtain ⟨c, head, letter⟩ := word.starts
    obtain ⟨_, rfl⟩ := List.head?_eq_some_iff.mp head
    obtain rfl := (List.cons_prefix_cons.mp stands).1
    cases letter
  | lineComment =>
    have second := (List.cons_prefix_cons.mp (List.cons_prefix_cons.mp stands).2).1
    cases second
  | blockComment closes =>
    obtain ⟨body, rfl, _⟩ := closes
    have within := ((List.prefix_append_right_inj _).mp stands).isInfix
    exact absurd ((List.suffix_append body _).isInfix.trans within) unclosed
  | hashBangLine =>
    have first := (List.cons_prefix_cons.mp stands).1
    cases first

omit code in
theorem isWord (lexeme : Lexeme mode s w) (starts : ∃ c ∈ w.head?, isLetter c = true) : s = Symbol.word ∧ IsWord w := by
  obtain ⟨c, head, letter⟩ := starts
  cases lexeme with
  | @spelled k member =>
    have spellings : ∀ k ∈ mode.spellings, ∀ c ∈ k.text.head?, isLetter c = false := by cases mode <;> decide
    rw [spellings k member c head] at letter
    cases letter
  | word word => exact ⟨rfl, word⟩
  | _ =>
    -- Comments and the first line of a script start with a mark.
    cases head
    cases letter

theorem language_eq : lexemes.Language mode.start = fun w => ∃ s, Lexeme mode s w :=
  funext fun _ => propext (exists_congr fun _ => accepts_iff code)

theorem read?_eq_some_iff (text : List CodePoint) (r : Reading) :
    let blanks := (text.takeWhile CodePoint.isBlank).length
    let rest := text.dropWhile CodePoint.isBlank
    read? mode text = some r ↔ r.start = blanks ∧
      (rest = [] ∧ mode ≠ .operand ∧ r.symbol = Symbol.finish ∧ r.stop = blanks ∨
        ∃ w, Longest (fun w => ∃ s, Lexeme mode s w) rest w ∧ Lexeme mode r.symbol w ∧ r.stop = blanks + w.length) := by
  have reading := Machine.reading_iff certificate.1 (certified code).toIsStart text r
  simp only [language_eq code, accepts_iff code, (certified code).last] at reading
  rw [read?, advance, reading]
  refine and_congr_right fun start => ?_
  rw [start]
  refine or_congr_left (and_congr_right fun _ => ?_)
  rw [← and_assoc]
  refine and_congr_left fun _ => ?_
  cases mode with
  | flags => exact absurd rfl code
  | _ => simp [Mode.last, eq_comm]

theorem read?_eq_none_iff (text : List CodePoint) :
    let rest := text.dropWhile CodePoint.isBlank
    read? mode text = none ↔ (∀ s w, w <+: rest → ¬Lexeme mode s w) ∧ (rest = [] → mode = .operand) := by
  have reading := Machine.reading_eq_none_iff certificate.1 (certified code).toIsStart text
  simp only [language_eq code, (certified code).last, not_exists] at reading
  rw [read?, advance, reading]
  refine and_congr ⟨fun none s w stands => none w stands s, fun none w stands s => none s w stands⟩ (imp_congr_right fun _ => ?_)
  cases mode with
  | flags => exact absurd rfl code
  | _ => simp [Mode.last]

/-- A block comment that nothing closes is a slash, which is no lexeme where an operand is asked for. -/
theorem read?_unclosed (text : List CodePoint) {inner : List CodePoint}
    (opens : text.dropWhile CodePoint.isBlank = ['/', '*'].map Char.toNat ++ inner)
    (unclosed : ¬['*', '/'].map Char.toNat <:+: inner) :
    let blanks := (text.takeWhile CodePoint.isBlank).length
    read? mode text = if mode = .operand then none else some ⟨71, blanks, blanks + 1⟩ := by
  intro blanks
  -- Where an operand is asked for, division is not among the spellings.
  split_ifs with operand
  · refine (read?_eq_none_iff code text).mpr ⟨fun s w stands lexeme => ?_, fun _ => operand⟩
    rw [opens] at stands
    exact (eq_slash unclosed lexeme stands).1 operand
  · have slash : Lexeme mode 71 [Char.toNat '/'] := by
      have member : ⟨['/'], 71⟩ ∈ mode.spellings := by
        cases mode <;> first | decide | contradiction
      exact .spelled member
    refine (read?_eq_some_iff code text _).mpr ⟨rfl, Or.inr ⟨_, ⟨?_, ⟨_, slash⟩, ?_⟩, slash, rfl⟩⟩
    · rw [opens]
      exact ⟨Char.toNat '*' :: inner, rfl⟩
    · rintro w stands ⟨s, lexeme⟩
      rw [opens] at stands
      rw [(eq_slash unclosed lexeme stands).2.2]

theorem reads_word {rest : List CodePoint} (text : List CodePoint) (word : IsWord w)
    (behind : text.dropWhile CodePoint.isBlank = w ++ rest) (ends : ∀ c ∈ rest.head?, isWordPart c = false) :
    let blanks := (text.takeWhile CodePoint.isBlank).length
    read? mode text = some ⟨Symbol.word, blanks, blanks + w.length⟩ := by
  intro blanks
  refine (read?_eq_some_iff code text _).mpr ⟨rfl, Or.inr ⟨w, ⟨?_, ⟨_, .word word⟩, ?_⟩, .word word, rfl⟩⟩
  · rw [behind]
    exact List.prefix_append w rest
  · rintro v stands ⟨s, lexeme⟩
    rw [behind] at stands
    -- Any other lexeme there starts with the same letter, so it is a word as well.
    cases v with
    | nil => exact Nat.zero_le _
    | cons c v =>
      obtain ⟨d, head, letter⟩ := word.starts
      obtain ⟨others, rfl⟩ := List.head?_eq_some_iff.mp head
      obtain rfl := (List.cons_prefix_cons.mp stands).1
      exact (lexeme.isWord ⟨_, rfl, letter⟩).2.length_le ends stands

end Lexeme

/-- Behind the blanks the longest lexeme is read, or the end of the text where no operand is asked for, and nothing if there
is neither. A block comment that nothing closes is a slash. -/
theorem read?_longest (code : mode ≠ .flags) (text : List CodePoint) :
    let blanks := (text.takeWhile CodePoint.isBlank).length
    let rest := text.dropWhile CodePoint.isBlank
    (∀ r, read? mode text = some r ↔ r.start = blanks ∧
      (rest = [] ∧ mode ≠ .operand ∧ r.symbol = Symbol.finish ∧ r.stop = blanks ∨
        ∃ w, Longest (fun w => ∃ s, Lexeme mode s w) rest w ∧ Lexeme mode r.symbol w ∧ r.stop = blanks + w.length)) ∧
    (read? mode text = none ↔ (∀ s w, w <+: rest → ¬Lexeme mode s w) ∧ (rest = [] → mode = .operand)) ∧
    ∀ inner, rest = ['/', '*'].map Char.toNat ++ inner → ¬['*', '/'].map Char.toNat <:+: inner →
      read? mode text = if mode = .operand then none else some ⟨71, blanks, blanks + 1⟩ :=
  ⟨Lexeme.read?_eq_some_iff code text, Lexeme.read?_eq_none_iff code text,
    fun _ => Lexeme.read?_unclosed code text⟩

/-- The star that opens a comment does not close it. -/
theorem read?_open : let text := [' ', '/', '*', '/'].map Char.toNat
    read? .any text = some ⟨71, 1, 2⟩ ∧ read? .operator text = some ⟨71, 1, 2⟩ ∧ read? .operand text = none := by
  have opens : ([' ', '/', '*', '/'].map Char.toNat).dropWhile CodePoint.isBlank =
      ['/', '*'].map Char.toNat ++ [Char.toNat '/'] := by decide
  have unclosed : ¬['*', '/'].map Char.toNat <:+: [Char.toNat '/'] := by decide
  have any : Mode.any ≠ .flags := by decide
  have operator : Mode.operator ≠ .flags := by decide
  have operand : Mode.operand ≠ .flags := by decide
  exact ⟨(read?_longest any _).2.2 _ opens unclosed, (read?_longest operator _).2.2 _ opens unclosed,
    (read?_longest operand _).2.2 _ opens unclosed⟩

example : read? .any (['/', '*', '*', '*', '/', '*', '/'].map Char.toNat) = some ⟨commentSymbol, 0, 5⟩ := rfl

end Ucode.Code

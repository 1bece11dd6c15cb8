import Mathlib.Data.List.TakeWhile
import Ucode.CaseFile.Reader

/-!
# The blocks of a case file

A case file is a preamble and then blocks, each of them a header, a name, another header, the lines of the input, a divider
and the lines that are expected. `Parts` says this of the lines of a file up to a rest, and `Breaks` what the lines
of a block look like that is not complete. Every file is complete, or has a first block that is broken
(`exists_parts`), so to know what the reader does with those two kinds is to know it for all files.
-/
namespace Ucode.Case

/-- The lines of one case, without the divider between input and expected tree. -/
structure Block where
  opening : Line
  name : Line
  closing : Line
  input : List Line
  expected : List Line

namespace Block

def lines (b : Block) : List Line := b.opening :: b.name :: b.closing :: (b.input ++ divider :: b.expected)

def toCase (b : Block) : Case := ofLines b.name b.input b.expected

/-- Each line is of its kind: nothing in a block but the two lines around its name is a header, and the divider does not
stand in the input. -/
structure Proper (b : Block) : Prop where
  opening : isHeader b.opening = true
  name : isHeader b.name = false
  closing : isHeader b.closing = true
  input : ∀ l ∈ b.input, isHeader l = false ∧ l ≠ divider
  expected : ∀ l ∈ b.expected, isHeader l = false

end Block

/-- The lines of some blocks, one behind the other. -/
def linesOf (blocks : List Block) : List Line := blocks.flatMap Block.lines

/-- Lines that are a preamble without headers, then blocks, then a rest. -/
structure Parts (lines preamble : List Line) (blocks : List Block) (rest : List Line) : Prop where
  whole : lines = preamble ++ (linesOf blocks ++ rest)
  preamble : ∀ l ∈ preamble, isHeader l = false
  proper : ∀ b ∈ blocks, b.Proper

/-- Lines that do not make up a block although they begin with a header, which stands in line `number`, and the error that
tells what is wrong. -/
inductive Breaks (number : Nat) : List Line → ReadError → Prop where
  | noName {opening : Line} {rest : List Line} (header : isHeader opening = true)
      (next : ∀ l ∈ rest.head?, isHeader l = true) :
      Breaks number (opening :: rest) (.noName number)
  | openHeader {opening name : Line} {rest : List Line} (header : isHeader opening = true)
      (named : isHeader name = false) (next : ∀ l ∈ rest.head?, isHeader l = false) :
      Breaks number (opening :: name :: rest) (.openHeader number name)
  | headerInInput {opening name closing header : Line} {input rest : List Line} (first : isHeader opening = true)
      (named : isHeader name = false) (second : isHeader closing = true)
      (free : ∀ l ∈ input, isHeader l = false ∧ l ≠ divider) (next : isHeader header = true) :
      Breaks number (opening :: name :: closing :: (input ++ header :: rest)) (.headerInInput name)
  | endInInput {opening name closing : Line} {input : List Line} (first : isHeader opening = true)
      (named : isHeader name = false) (second : isHeader closing = true)
      (free : ∀ l ∈ input, isHeader l = false ∧ l ≠ divider) :
      Breaks number (opening :: name :: closing :: input) (.endInInput name)

/-- What a report begins with: the line in which the broken block begins, or the name of that block. -/
def ReadError.subject : ReadError → String
  | .noName line | .openHeader line _ => "line " ++ toString line
  | .headerInInput name | .endInInput name => String.ofList name

theorem ReadError.message_subject (e : ReadError) : ∃ fault, e.message = e.subject ++ ": " ++ fault := by
  cases e with
  | noName line => exact ⟨"header without a test name", by simp [message, subject, String.append_assoc]⟩
  | openHeader line name =>
    refine ⟨"unterminated header for " ++ String.ofList name, ?_⟩
    have parted : ": unterminated header for " = ": " ++ "unterminated header for " := rfl
    rw [message, subject, parted]
    simp only [String.append_assoc]
  | headerInInput name => exact ⟨"next header reached before `---`", by simp [message, subject, String.append_assoc]⟩
  | endInInput name => exact ⟨"end of file reached before `---`", by simp [message, subject, String.append_assoc]⟩

section Splitting

variable {p : Line → Bool} {front front' rest rest' : List Line}

/-- Lines can be parted before the first one of a kind. -/
theorem exists_split (p : Line → Bool) (lines : List Line) :
    ∃ front rest, lines = front ++ rest ∧ (∀ l ∈ front, p l = false) ∧ ∀ l ∈ rest.head?, p l = true := by
  refine ⟨lines.takeWhile (fun l => !p l), lines.dropWhile (fun l => !p l), ?_, ?_, ?_⟩
  · exact List.takeWhile_append_dropWhile.symm
  · intro l member
    simpa using List.mem_takeWhile_imp member
  · intro l first
    have stops := List.head?_dropWhile_not (fun l => !p l) lines
    rw [Option.mem_def.mp first] at stops
    simpa using stops

theorem split_unique (same : front ++ rest = front' ++ rest') (free : ∀ l ∈ front, p l = false)
    (free' : ∀ l ∈ front', p l = false) (next : ∀ l ∈ rest.head?, p l = true) (next' : ∀ l ∈ rest'.head?, p l = true) :
    front = front' ∧ rest = rest' := by
  -- If one of the fronts ends first, the other one goes on with a line of the kind it is free of.
  induction front generalizing front' with
  | nil =>
    cases front' with
    | nil => exact ⟨rfl, same⟩
    | cons l front' =>
      have other := next l (by rw [show rest = l :: (front' ++ rest') from same]; rfl)
      simp [free' l (.head _)] at other
  | cons l front ih =>
    cases front' with
    | nil =>
      have other := next' l (by rw [show rest' = l :: (front ++ rest) from same.symm]; rfl)
      simp [free l (.head _)] at other
    | cons l' front' =>
      obtain ⟨rfl, others⟩ := List.cons.inj same
      obtain ⟨rfl, rfl⟩ := ih others (fun x member => free x (.tail _ member)) (fun x member => free' x (.tail _ member))
      exact ⟨rfl, rfl⟩

end Splitting

/-! ### Reading lines of one kind -/

section Reading

variable {number : Nat} {name : Line} {input expected lines rest : List Line}

theorem readFrom_preamble (free : ∀ l ∈ lines, isHeader l = false) :
    readFrom .preamble number (lines ++ rest) = readFrom .preamble (number + lines.length) rest := by
  induction lines generalizing number with
  | nil => rfl
  | cons l lines ih =>
    rw [List.cons_append, readFrom, if_neg (by simp [free l (.head _)]), ih fun x member => free x (.tail _ member),
      List.length_cons]
    congr 1
    omega

theorem readFrom_input (free : ∀ l ∈ lines, isHeader l = false ∧ l ≠ divider) :
    readFrom (.input name input) number (lines ++ rest) =
      readFrom (.input name (input ++ lines)) (number + lines.length) rest := by
  induction lines generalizing input number with
  | nil => rw [List.append_nil]; rfl
  | cons l lines ih =>
    obtain ⟨plain, other⟩ := free l (.head _)
    rw [List.cons_append, readFrom, if_neg other, if_neg (by simp [plain]), ih fun x member => free x (.tail _ member),
      List.append_assoc, List.length_cons]
    congr 1
    omega

theorem readFrom_expected (free : ∀ l ∈ lines, isHeader l = false) :
    readFrom (.expected name input expected) number (lines ++ rest) =
      readFrom (.expected name input (expected ++ lines)) (number + lines.length) rest := by
  induction lines generalizing expected number with
  | nil => rw [List.append_nil]; rfl
  | cons l lines ih =>
    rw [List.cons_append, readFrom, if_neg (by simp [free l (.head _)]), ih fun x member => free x (.tail _ member),
      List.append_assoc, List.length_cons]
    congr 1
    omega

/-- A case is complete where the file ends or the next header stands. -/
theorem readFrom_expected_end (next : ∀ l ∈ rest.head?, isHeader l = true) :
    readFrom (.expected name input expected) number rest =
      (readFrom .preamble number rest).map (ofLines name input expected :: ·) := by
  cases rest with
  | nil => rfl
  | cons l rest =>
    have header := next l rfl
    rw [readFrom, readFrom, if_pos header, if_pos header]

end Reading

/-! ### Reading blocks -/

section Blocks

variable {number : Nat} {blocks : List Block} {lines preamble rest : List Line} {error : ReadError}

theorem readFrom_block (b : Block) (proper : b.Proper) (next : ∀ l ∈ rest.head?, isHeader l = true) :
    readFrom .preamble number (b.lines ++ rest) =
      (readFrom .preamble (number + b.lines.length) rest).map (b.toCase :: ·) := by
  have opened : readFrom .preamble number (b.lines ++ rest) =
      readFrom (.input b.name []) (number + 1 + 1 + 1) (b.input ++ divider :: (b.expected ++ rest)) := by
    simp only [Block.lines, List.cons_append, List.append_assoc]
    rw [readFrom, if_pos proper.opening, readFrom, if_neg (by simp [proper.name]), readFrom, if_pos proper.closing]
  rw [opened, readFrom_input proper.input, readFrom, if_pos rfl, readFrom_expected proper.expected,
    readFrom_expected_end next]
  simp only [List.nil_append, Block.lines, List.length_cons, List.length_append, Block.toCase]
  congr 2
  omega

theorem head_linesOf (rest : List Line) (proper : ∀ b ∈ blocks, b.Proper) (next : ∀ l ∈ rest.head?, isHeader l = true) :
    ∀ l ∈ (linesOf blocks ++ rest).head?, isHeader l = true := by
  cases blocks with
  | nil => exact next
  | cons b blocks =>
    intro l first
    obtain rfl : b.opening = l := by simpa [linesOf, Block.lines] using first
    exact (proper b (.head _)).opening

theorem readFrom_blocks (proper : ∀ b ∈ blocks, b.Proper) (next : ∀ l ∈ rest.head?, isHeader l = true) :
    readFrom .preamble number (linesOf blocks ++ rest) =
      (readFrom .preamble (number + (linesOf blocks).length) rest).map (blocks.map Block.toCase ++ ·) := by
  induction blocks generalizing number with
  | nil => cases h : readFrom .preamble number rest <;> simp [linesOf, h, Except.map]
  | cons b blocks ih =>
    have others : ∀ b ∈ blocks, b.Proper := fun x member => proper x (.tail _ member)
    have first : linesOf (b :: blocks) ++ rest = b.lines ++ (linesOf blocks ++ rest) := by
      simp [linesOf, List.append_assoc]
    have length : (linesOf (b :: blocks)).length = b.lines.length + (linesOf blocks).length := by
      simp [linesOf]
    rw [first, readFrom_block b (proper b (.head _)) (head_linesOf _ others next), ih others, length, Nat.add_assoc]
    cases readFrom .preamble (number + (b.lines.length + (linesOf blocks).length)) rest <;> simp [Except.map]

theorem readFrom_breaks (breaks : Breaks number rest error) : readFrom .preamble number rest = .error error := by
  cases breaks with
  | @noName opening rest header next =>
    rw [readFrom, if_pos header]
    cases rest with
    | nil => rfl
    | cons l rest => rw [readFrom, if_pos (next l rfl)]
  | @openHeader opening name rest header named next =>
    rw [readFrom, if_pos header, readFrom, if_neg (by simp [named])]
    cases rest with
    | nil => rfl
    | cons l rest => rw [readFrom, if_neg (by simp [next l rfl])]
  | @headerInInput opening name closing header input rest first named second free next =>
    -- The divider is looked for first, but no header is one.
    have other : header ≠ divider := by
      rintro rfl
      exact absurd next (by decide)
    rw [readFrom, if_pos first, readFrom, if_neg (by simp [named]), readFrom, if_pos second, readFrom_input free,
      readFrom, if_neg other, if_pos next]
  | @endInInput opening name closing input first named second free =>
    rw [readFrom, if_pos first, readFrom, if_neg (by simp [named]), readFrom, if_pos second,
      ← List.append_nil input, readFrom_input free, readFrom]

end Blocks

/-! ### All files -/

section Files

variable {preamble preamble' rest : List Line} {blocks blocks' : List Block}

/-- Lines behind a header are a block and what follows it, or no block. -/
theorem exists_block (number : Nat) (opening : Line) (lines : List Line) (header : isHeader opening = true) :
    (∃ (b : Block) (rest : List Line), opening :: lines = b.lines ++ rest ∧ b.Proper ∧
      ∀ l ∈ rest.head?, isHeader l = true) ∨
      ∃ error, Breaks number (opening :: lines) error := by
  cases lines with
  | nil => exact Or.inr ⟨_, .noName header (by simp)⟩
  | cons name lines =>
    cases named : isHeader name with
    | true => exact Or.inr ⟨_, .noName header (by simp [named])⟩
    | false =>
      cases lines with
      | nil => exact Or.inr ⟨_, .openHeader header named (by simp)⟩
      | cons closing lines =>
        cases second : isHeader closing with
        | false => exact Or.inr ⟨_, .openHeader header named (by simp [second])⟩
        | true =>
          -- The input ends at the first line that is a divider or a header.
          obtain ⟨input, behind, rfl, free, next⟩ := exists_split (fun l => isHeader l || decide (l = divider)) lines
          have free : ∀ l ∈ input, isHeader l = false ∧ l ≠ divider := by simpa using free
          cases behind with
          | nil => exact Or.inr ⟨_, by simpa using Breaks.endInInput header named second free⟩
          | cons stop behind =>
            by_cases divides : stop = divider
            · obtain ⟨expected, rest, rfl, plain, ends⟩ := exists_split isHeader behind
              refine Or.inl ⟨⟨opening, name, closing, input, expected⟩, rest, ?_, ⟨header, named, second, free, plain⟩, ends⟩
              simp [Block.lines, divides]
            · have stops : isHeader stop = true := by simpa [divides] using next stop rfl
              exact Or.inr ⟨_, .headerInInput header named second free stops⟩

theorem exists_blocks (number : Nat) (lines : List Line) (starts : ∀ l ∈ lines.head?, isHeader l = true) :
    ∃ blocks rest, lines = linesOf blocks ++ rest ∧ (∀ b ∈ blocks, b.Proper) ∧
      (rest = [] ∨ ∃ error, Breaks (number + (linesOf blocks).length) rest error) := by
  -- Each block takes some lines, and what is left begins with a header again.
  induction length : lines.length using Nat.strong_induction_on generalizing number lines with
  | _ n ih =>
    cases lines with
    | nil => exact ⟨[], [], rfl, by simp, Or.inl rfl⟩
    | cons opening lines =>
      rcases exists_block number opening lines (starts opening rfl) with ⟨b, rest, same, proper, next⟩ | broken
      · have shorter : rest.length < n := by
          rw [← length, same, List.length_append]
          simp [Block.lines]
        obtain ⟨blocks, behind, rfl, others, ends⟩ := ih _ shorter (number + b.lines.length) rest next rfl
        refine ⟨b :: blocks, behind, ?_, List.forall_mem_cons.mpr ⟨proper, others⟩, ?_⟩
        · rw [same]
          simp [linesOf]
        · have length : (linesOf (b :: blocks)).length = b.lines.length + (linesOf blocks).length := by simp [linesOf]
          rwa [length, ← Nat.add_assoc]
      · exact ⟨[], _, rfl, by simp, Or.inr broken⟩

/-- Every file is a preamble and blocks, with nothing behind them or something that is no block. -/
theorem exists_parts (lines : List Line) :
    ∃ preamble blocks rest, Parts lines preamble blocks rest ∧
      (rest = [] ∨ ∃ error, Breaks (preamble.length + (linesOf blocks).length + 1) rest error) := by
  obtain ⟨preamble, behind, rfl, free, next⟩ := exists_split isHeader lines
  obtain ⟨blocks, rest, rfl, proper, ends⟩ := exists_blocks (preamble.length + 1) behind next
  refine ⟨preamble, blocks, rest, ⟨rfl, free, proper⟩, ?_⟩
  rwa [Nat.add_right_comm]

theorem Breaks.head {number : Nat} {error : ReadError} (breaks : Breaks number rest error) :
    ∀ l ∈ rest.head?, isHeader l = true := by
  cases breaks <;> simpa

theorem Parts.readAll {text : List Char} (parts : Parts (Line.split text) preamble blocks rest)
    (next : ∀ l ∈ rest.head?, isHeader l = true) :
    readAll text = (readFrom .preamble (preamble.length + (linesOf blocks).length + 1) rest).map
      (blocks.map Block.toCase ++ ·) := by
  rw [Case.readAll, parts.whole, readFrom_preamble parts.preamble, readFrom_blocks parts.proper next]
  congr 2
  omega

theorem Parts.readAll_complete {text : List Char} (parts : Parts (Line.split text) preamble blocks []) :
    Case.readAll text = .ok (blocks.map Block.toCase) := by
  rw [parts.readAll (by simp)]
  simp [readFrom, Except.map]

theorem Parts.readAll_broken {text : List Char} {error : ReadError}
    (parts : Parts (Line.split text) preamble blocks rest)
    (breaks : Breaks (preamble.length + (linesOf blocks).length + 1) rest error) : Case.readAll text = .error error := by
  rw [parts.readAll breaks.head, readFrom_breaks breaks]
  rfl

theorem linesOf_inj (same : linesOf blocks = linesOf blocks') (proper : ∀ b ∈ blocks, b.Proper)
    (proper' : ∀ b ∈ blocks', b.Proper) : blocks = blocks' := by
  -- Block by block: the three lines at the start are told by their number, the others by the kind of line that
  -- follows.
  induction blocks generalizing blocks' with
  | nil =>
    cases blocks' with
    | nil => rfl
    | cons b' blocks' => simp [linesOf, Block.lines] at same
  | cons b blocks ih =>
    cases blocks' with
    | nil => simp [linesOf, Block.lines] at same
    | cons b' blocks' =>
      obtain ⟨here, others⟩ := List.forall_mem_cons.mp proper
      obtain ⟨here', others'⟩ := List.forall_mem_cons.mp proper'
      simp only [linesOf, List.flatMap_cons, Block.lines, List.cons_append, List.append_assoc, List.cons.injEq] at same
      obtain ⟨opening, name, closing, behind⟩ := same
      -- The inputs are what stands before the dividers, the expected lines what stands before the next headers.
      obtain ⟨input, behind⟩ := split_unique (p := fun l => decide (l = divider)) behind
        (fun l member => by simp [(here.input l member).2]) (fun l member => by simp [(here'.input l member).2])
        (by simp) (by simp)
      obtain ⟨expected, behind⟩ := split_unique (p := isHeader) (List.cons.inj behind).2 here.expected here'.expected
        (by simpa [linesOf] using head_linesOf [] others (by simp))
        (by simpa [linesOf] using head_linesOf [] others' (by simp))
      obtain rfl := ih behind others others'
      cases b
      cases b'
      simp_all

theorem Parts.unique {lines : List Line} (parts : Parts lines preamble blocks [])
    (parts' : Parts lines preamble' blocks' []) : preamble = preamble' ∧ blocks = blocks' := by
  obtain ⟨rfl, behind⟩ := split_unique (parts.whole.symm.trans parts'.whole) parts.preamble parts'.preamble
    (head_linesOf _ parts.proper (by simp)) (head_linesOf _ parts'.proper (by simp))
  refine ⟨rfl, linesOf_inj ?_ parts.proper parts'.proper⟩
  simpa using behind

/-- A file is read exactly if its lines are a preamble and blocks, which they are in one way only, and there is a case for
each block. Otherwise the first block that is broken is reported, with the line in which it begins or with its
name. -/
theorem readAll_iff (text : List Char) :
    (∀ cases, readAll text = .ok cases ↔
      ∃ preamble blocks, Parts (Line.split text) preamble blocks [] ∧ cases = blocks.map Block.toCase) ∧
    (∀ preamble blocks preamble' blocks', Parts (Line.split text) preamble blocks [] →
      Parts (Line.split text) preamble' blocks' [] → preamble = preamble' ∧ blocks = blocks') ∧
    ∀ error, readAll text = .error error ↔
      ∃ preamble blocks rest, Parts (Line.split text) preamble blocks rest ∧
        Breaks (preamble.length + (linesOf blocks).length + 1) rest error ∧
        ∃ fault, error.message = error.subject ++ ": " ++ fault := by
  -- The file is of one of the two kinds, and each of them excludes the other answer.
  obtain ⟨preamble, blocks, rest, parts, ends⟩ := exists_parts (Line.split text)
  refine ⟨fun found => ⟨fun read => ?_, ?_⟩, fun _ _ _ _ => Parts.unique, fun error => ⟨fun read => ?_, ?_⟩⟩
  · rcases ends with rfl | ⟨error, breaks⟩
    · rw [parts.readAll_complete] at read
      exact ⟨preamble, blocks, parts, (Except.ok.inj read).symm⟩
    · rw [parts.readAll_broken breaks] at read
      cases read
  · rintro ⟨_, _, complete, rfl⟩
    exact complete.readAll_complete
  · rcases ends with rfl | ⟨found, breaks⟩
    · rw [parts.readAll_complete] at read
      cases read
    · rw [parts.readAll_broken breaks] at read
      obtain rfl := Except.error.inj read
      exact ⟨preamble, blocks, rest, parts, breaks, found.message_subject⟩
  · rintro ⟨_, _, _, broken, breaks, _⟩
    exact broken.readAll_broken breaks

end Files
end Ucode.Case

import Mathlib.Data.List.Basic
import Mathlib.Data.List.TakeWhile
import Mathlib.Logic.Relation
import Ucode.CaseFile.Words

/-!
# The layout of an expression

Two texts have the same words exactly if one becomes the other by changes of its layout: white space may come and go beside a
parenthesis and at the edges, and elsewhere some white space may take the place of other (`words_eq_iff`). All of it
rests on `words_append`: a text can be cut wherever no word runs across the cut.
-/
namespace Ucode

theorem Line.words_append {c : Char} (x y : List Char) (space : isSpace c = true) :
    words (x ++ c :: y) = words x ++ words y := by
  rw [words, List.splitOnP_append_cons x y space, List.filter_append]
  rfl

namespace Case

/-- A parenthesis. -/
def isMark (c : Char) : Bool := c == '(' || c == ')'

/-- A character that goes on in a word. -/
def isPlain (c : Char) : Bool := !isMark c && !Line.isSpace c

/-- White space, or nothing. -/
def Blank (gap : List Char) : Prop := ∀ c ∈ gap, Line.isSpace c = true

/-- A parenthesis, or some characters that are neither parentheses nor white space. -/
inductive Word : List Char → Prop where
  | mark {c : Char} (mark : isMark c = true) : Word [c]
  | plain {w : List Char} (some : w ≠ []) (all : ∀ c ∈ w, isPlain c = true) : Word w

/-- No word runs from the end of one text into the other. -/
def Apart (x y : List Char) : Prop :=
  (∀ c ∈ x.getLast?, isPlain c = false) ∨ ∀ c ∈ y.head?, isPlain c = false

/-- The words that a text consists of, each of them as long as can be. -/
inductive Spells : List (List Char) → List Char → Prop where
  | nil : Spells [] []
  | space {c : Char} {ws : List (List Char)} {text : List Char} (space : Line.isSpace c = true) (rest : Spells ws text) :
      Spells ws (c :: text)
  | mark {c : Char} {ws : List (List Char)} {text : List Char} (mark : isMark c = true) (rest : Spells ws text) :
      Spells ([c] :: ws) (c :: text)
  | plain {w : List Char} {ws : List (List Char)} {text : List Char} (some : w ≠ []) (all : ∀ c ∈ w, isPlain c = true)
      (ends : ∀ c ∈ text.head?, isPlain c = false) (rest : Spells ws text) : Spells (w :: ws) (w ++ text)

/-- Words with white space between any two of them. -/
inductive Joined : List (List Char) → List Char → Prop where
  | nil : Joined [] []
  | single (w : List Char) : Joined [w] w
  | cons {v w gap text : List Char} {ws : List (List Char)} (blank : Blank gap) (some : gap ≠ [])
      (rest : Joined (w :: ws) text) : Joined (v :: w :: ws) (v ++ gap ++ text)

/-- One change of the layout. -/
inductive Relaid : List Char → List Char → Prop where
  /-- White space behind or before a parenthesis, or at the edge of the text, goes away. -/
  | beside {x y gap : List Char} (blank : Blank gap)
      (edge : (∀ c ∈ x.getLast?, isMark c = true) ∨ ∀ c ∈ y.head?, isMark c = true) : Relaid (x ++ gap ++ y) (x ++ y)
  /-- White space takes the place of other white space. -/
  | within {x y gap other : List Char} (blank : Blank gap) (some : gap ≠ []) (otherBlank : Blank other)
      (otherSome : other ≠ []) : Relaid (x ++ gap ++ y) (x ++ other ++ y)

/-! ### Characters -/

section Characters

variable {c : Char} {gap : List Char}

theorem isSpace_eq_false_of_isMark (mark : isMark c = true) : Line.isSpace c = false := by
  simp only [isMark, Bool.or_eq_true, beq_iff_eq] at mark
  rcases mark with rfl | rfl <;> decide

theorem isPlain_iff : isPlain c = true ↔ isMark c = false ∧ Line.isSpace c = false := by
  simp [isPlain]

theorem isPlain_eq_false_iff : isPlain c = false ↔ isMark c = true ∨ Line.isSpace c = true := by
  simp only [isPlain, Bool.and_eq_false_iff, Bool.not_eq_false']

theorem Blank.head (blank : Blank gap) : ∀ c ∈ gap.head?, isPlain c = false :=
  fun c first => isPlain_eq_false_iff.mpr (Or.inr (blank c (List.mem_of_head? first)))

theorem Blank.last (blank : Blank gap) : ∀ c ∈ gap.getLast?, isPlain c = false :=
  fun c last => isPlain_eq_false_iff.mpr (Or.inr (blank c (List.mem_of_getLast? last)))

theorem Blank.append_iff {other : List Char} : Blank (gap ++ other) ↔ Blank gap ∧ Blank other := List.forall_mem_append

end Characters

/-! ### Cutting a text -/

section Cutting

variable {c : Char} {w x y gap : List Char}

theorem setApart_append (mark : Char) (x y : List Char) : setApart mark (x ++ y) = setApart mark x ++ setApart mark y :=
  List.flatMap_append

theorem setApart_of_ne {mark : Char} (none : ∀ c ∈ w, c ≠ mark) : setApart mark w = w := by
  induction w with
  | nil => rfl
  | cons c w ih =>
    obtain ⟨other, others⟩ := List.forall_mem_cons.mp none
    rw [setApart, List.flatMap_cons, if_neg other]
    exact congrArg _ (ih others)

theorem words_nil : words [] = [] := rfl

theorem words_append_space (x y : List Char) (space : Line.isSpace c = true) :
    words (x ++ c :: y) = words x ++ words y := by
  have unmarked : ∀ mark, isMark mark = true → setApart mark [c] = [c] := fun mark is =>
    setApart_of_ne (by rintro d member rfl; simp_all [isSpace_eq_false_of_isMark])
  rw [words, ← List.singleton_append, setApart_append, setApart_append, setApart_append, setApart_append,
    unmarked '(' rfl, unmarked ')' rfl]
  exact Line.words_append _ _ space

/-- A parenthesis is a word wherever it stands. -/
theorem words_append_mark (x y : List Char) (mark : isMark c = true) :
    words (x ++ c :: y) = words x ++ [c] :: words y := by
  -- The spaces that are put around a parenthesis part it from what is beside it.
  have padded : setApart ')' (setApart '(' [c]) = ' ' :: c :: [' '] := by
    simp only [isMark, Bool.or_eq_true, beq_iff_eq] at mark
    rcases mark with rfl | rfl <;> rfl
  have alone : Line.words [c] = [[c]] := by
    simp only [isMark, Bool.or_eq_true, beq_iff_eq] at mark
    rcases mark with rfl | rfl <;> rfl
  have space : Line.isSpace ' ' = true := rfl
  calc words (x ++ c :: y)
    _ = Line.words (setApart ')' (setApart '(' x) ++ ' ' :: ([c] ++ ' ' :: setApart ')' (setApart '(' y))) := by
      rw [words, ← List.singleton_append, setApart_append, setApart_append, setApart_append, setApart_append, padded]
      rfl
    _ = words x ++ ([[c]] ++ words y) := by
      rw [Line.words_append _ _ space, Line.words_append _ _ space, alone]
      rfl

theorem words_plain (some : w ≠ []) (all : ∀ c ∈ w, isPlain c = true) : words w = [w] := by
  have unmarked : ∀ mark, isMark mark = true → setApart mark w = w := fun mark is =>
    setApart_of_ne (by rintro d member rfl; simp [isPlain_iff.mp (all d member)] at is)
  have solid : ∀ c ∈ w, Line.isSpace c = false := fun c member => (isPlain_iff.mp (all c member)).2
  rw [words, unmarked '(' rfl, unmarked ')' rfl, Line.words, List.splitOnP_eq_singleton solid]
  simp [some]

theorem Word.ne_nil (word : Word w) : w ≠ [] := by
  cases word with
  | mark => exact List.cons_ne_nil _ _
  | plain some => exact some

theorem Word.solid (word : Word w) : ∀ c ∈ w, Line.isSpace c = false := by
  cases word with
  | mark mark => exact List.forall_mem_singleton.mpr (isSpace_eq_false_of_isMark mark)
  | plain _ all => exact fun c member => (isPlain_iff.mp (all c member)).2

theorem Word.eq_of_isMark (word : Word w) (member : c ∈ w) (mark : isMark c = true) : w = ['('] ∨ w = [')'] := by
  cases word with
  | mark mark => simpa [isMark] using mark
  | plain _ all => simp [isPlain_iff.mp (all c member)] at mark

/-- Without white space between a text and a word one of the two is a parenthesis where they meet. -/
theorem Apart.edge (apart : Apart x (w ++ y)) (word : Word w) (solid : ∀ c ∈ x.getLast?, Line.isSpace c = false) :
    (∀ c ∈ x.getLast?, isMark c = true) ∨ ∀ c ∈ w.head?, isMark c = true := by
  have mark {c : Char} (plain : isPlain c = false) (solid : Line.isSpace c = false) : isMark c = true :=
    (isPlain_eq_false_iff.mp plain).resolve_right (by simp [solid])
  rw [Apart, List.head?_append_of_ne_nil _ word.ne_nil] at apart
  exact apart.imp (fun last c member => mark (last c member) (solid c member))
    fun first c member => mark (first c member) (word.solid c (List.mem_of_head? member))

theorem Word.words_eq (word : Word w) : words w = [w] := by
  cases word with
  | mark mark => exact words_append_mark [] [] mark
  | plain some all => exact words_plain some all

/-- A text can be cut wherever no word runs across the cut. -/
theorem words_append (apart : Apart x y) : words (x ++ y) = words x ++ words y := by
  rcases apart with last | first
  -- No word ends the first text, so its last character is a parenthesis or white space.
  · rcases List.eq_nil_or_concat x with rfl | ⟨front, c, rfl⟩
    · rfl
    · rw [List.concat_eq_append] at last ⊢
      rw [List.append_assoc, List.singleton_append]
      rcases isPlain_eq_false_iff.mp (last c (by simp)) with mark | space
      · rw [words_append_mark front y mark, words_append_mark front [] mark, words_nil, List.append_assoc]
        rfl
      · rw [words_append_space front y space, words_append_space front [] space, words_nil, List.append_nil]
  -- Or no word begins the second one.
  · cases y with
    | nil => rw [words_nil, List.append_nil, List.append_nil]
    | cons c y =>
      rcases isPlain_eq_false_iff.mp (first c rfl) with mark | space
      · rw [words_append_mark x y mark, ← List.nil_append (c :: y), words_append_mark [] y mark]
        rfl
      · rw [words_append_space x y space, ← List.nil_append (c :: y), words_append_space [] y space]
        rfl

theorem Blank.words_eq (blank : Blank gap) : words gap = [] := by
  induction gap with
  | nil => rfl
  | cons c gap ih =>
    obtain ⟨space, others⟩ := List.forall_mem_cons.mp blank
    rw [← List.nil_append (c :: gap), words_append_space [] gap space, ih others]
    rfl

theorem words_append_blank (blank : Blank gap) (some : gap ≠ []) (x y : List Char) :
    words (x ++ gap ++ y) = words x ++ words y := by
  have last : ∀ c ∈ (x ++ gap).getLast?, isPlain c = false := by
    rw [List.getLast?_append_of_ne_nil _ some]
    exact blank.last
  rw [words_append (Or.inl last), words_append (Or.inr blank.head), blank.words_eq, List.append_nil]

end Cutting

/-! ### The words of a text -/

section Texts

variable {w v text front : List Char} {before behind ws : List (List Char)}

theorem Spells.words_eq (spells : Spells ws text) : words text = ws := by
  induction spells with
  | nil => rfl
  | @space c ws text space _ ih => rw [← List.nil_append (c :: text), words_append_space [] text space, ih, words_nil, List.nil_append]
  | @mark c ws text mark _ ih => rw [← List.nil_append (c :: text), words_append_mark [] text mark, ih, words_nil, List.nil_append]
  | plain some all ends _ ih => rw [words_append (Or.inr ends), words_plain some all, ih, List.singleton_append]

theorem exists_spells (text : List Char) : ∃ ws, Spells ws text := by
  -- A word is taken off the text as a whole, so the induction is on the length.
  induction length : text.length using Nat.strong_induction_on generalizing text with
  | _ n ih =>
    subst length
    cases text with
    | nil => exact ⟨[], .nil⟩
    | cons c text =>
      cases plain : isPlain c with
      | false =>
        obtain ⟨ws, spells⟩ := ih text.length (Nat.lt_succ_self _) text rfl
        rcases isPlain_eq_false_iff.mp plain with mark | space
        · exact ⟨[c] :: ws, .mark mark spells⟩
        · exact ⟨ws, .space space spells⟩
      | true =>
        have some : (c :: text).takeWhile isPlain ≠ [] := by simp [plain]
        have shorter : ((c :: text).dropWhile isPlain).length < (c :: text).length := by
          rw [List.dropWhile_cons_of_pos plain]
          exact Nat.lt_succ_of_le (List.dropWhile_suffix isPlain).length_le
        obtain ⟨ws, spells⟩ := ih _ shorter _ rfl
        have ends : ∀ d ∈ ((c :: text).dropWhile isPlain).head?, isPlain d = false := by
          intro d first
          have stop := List.head?_dropWhile_not isPlain (c :: text)
          rw [Option.mem_def.mp first] at stop
          simpa using stop
        have spelled := Spells.plain some (fun d member => List.all_eq_true.mp List.all_takeWhile d member) ends spells
        rw [List.takeWhile_append_dropWhile] at spelled
        exact ⟨_, spelled⟩

theorem spells_words (text : List Char) : Spells (words text) text := by
  obtain ⟨ws, spells⟩ := exists_spells text
  rwa [spells.words_eq]

theorem Spells.word (spells : Spells ws text) : ∀ w ∈ ws, Word w := by
  induction spells with
  | nil => nofun
  | space _ _ ih => exact ih
  | mark mark _ ih => exact List.forall_mem_cons.mpr ⟨.mark mark, ih⟩
  | plain some all _ _ ih => exact List.forall_mem_cons.mpr ⟨.plain some all, ih⟩

/-- Nothing but the white space is left out. -/
theorem Spells.flatten (spells : Spells ws text) : ws.flatten = text.filter (!Line.isSpace ·) := by
  induction spells with
  | nil => rfl
  | space space _ ih => simp [space, ih]
  | mark mark _ ih => simp [isSpace_eq_false_of_isMark mark, ih]
  | @plain w ws text _ all _ _ ih =>
    have whole : w.filter (!Line.isSpace ·) = w :=
      List.filter_eq_self.mpr fun c member => by simp [(isPlain_iff.mp (all c member)).2]
    rw [List.filter_append, whole, List.flatten_cons, ih]

/-- Each word stands between the words before it and those behind it, and it does not go on. -/
theorem Spells.split (spells : Spells (before ++ w :: behind) text) :
    ∃ x y, text = x ++ w ++ y ∧ Spells before x ∧ Spells behind y ∧ Apart w y := by
  -- Along the spelling: what stands before the word that is looked for is passed over.
  generalize whole : before ++ w :: behind = ws at spells
  induction spells generalizing before with
  | nil => simp at whole
  | space space _ ih =>
    obtain ⟨x, y, rfl, first, second, apart⟩ := ih whole
    exact ⟨_ :: x, y, rfl, .space space first, second, apart⟩
  | @mark c ws text mark rest ih =>
    cases before with
    | nil =>
      obtain ⟨rfl, rfl⟩ := List.cons.inj whole
      refine ⟨[], text, rfl, .nil, rest, Or.inl fun d last => ?_⟩
      cases last
      exact isPlain_eq_false_iff.mpr (Or.inl mark)
    | cons v before =>
      obtain ⟨rfl, others⟩ := List.cons.inj whole
      obtain ⟨x, y, rfl, first, second, apart⟩ := ih others
      exact ⟨c :: x, y, rfl, .mark mark first, second, apart⟩
  | @plain v ws text some all ends rest ih =>
    cases before with
    | nil =>
      obtain ⟨rfl, rfl⟩ := List.cons.inj whole
      exact ⟨[], text, rfl, .nil, rest, Or.inr ends⟩
    | cons u before =>
      obtain ⟨rfl, others⟩ := List.cons.inj whole
      obtain ⟨x, y, rfl, first, second, apart⟩ := ih others
      refine ⟨u ++ x, y, by simp, .plain some all (fun c head => ends c ?_) first, second, apart⟩
      -- What follows the word in the shorter text follows it in the longer one.
      rw [List.append_assoc, List.head?_append, Option.mem_def.mp head]
      rfl

theorem Spells.blank (spells : Spells [] text) : Blank text := by
  generalize none : [] = ws at spells
  induction spells with
  | nil => nofun
  | space space _ ih => exact List.forall_mem_cons.mpr ⟨space, ih none⟩
  | mark => cases none
  | plain => cases none

theorem Spells.first (spells : Spells (w :: ws) text) :
    ∃ gap rest, text = gap ++ (w ++ rest) ∧ Blank gap ∧ Spells ws rest ∧ Apart w rest := by
  rw [← List.nil_append (w :: ws)] at spells
  obtain ⟨x, y, rfl, none, others, apart⟩ := spells.split
  exact ⟨x, y, List.append_assoc .., none.blank, others, apart⟩

theorem Spells.neighbours (spells : Spells (before ++ v :: w :: behind) text) :
    ∃ x gap y, text = x ++ v ++ gap ++ w ++ y ∧ Spells before x ∧ Spells behind y ∧ Blank gap ∧
      (gap = [] → v = ['('] ∨ v = [')'] ∨ w = ['('] ∨ w = [')']) := by
  have wordly := spells.word
  obtain ⟨x, rest, rfl, first, others, apart⟩ := spells.split
  obtain ⟨gap, y, rfl, blank, second, _⟩ := others.first
  refine ⟨x, gap, y, by simp, first, second, blank, ?_⟩
  rintro rfl
  have first : Word v := wordly v (by simp)
  have second : Word w := wordly w (by simp)
  rw [List.nil_append] at apart
  rcases apart.edge second fun c member => first.solid c (List.mem_of_getLast? member) with last | head
  · exact (first.eq_of_isMark (List.getLast_mem first.ne_nil) (last _ (List.getLast?_eq_some_getLast _))).imp_right Or.inl
  · exact Or.inr (Or.inr (second.eq_of_isMark (List.head_mem second.ne_nil) (head _ (List.head?_eq_some_head _))))

theorem Joined.words_eq (joined : Joined ws text) (wordly : ∀ w ∈ ws, Word w) : words text = ws := by
  induction joined with
  | nil => rfl
  | single w => exact (wordly w (List.mem_singleton_self w)).words_eq
  | cons blank some _ ih =>
    obtain ⟨word, others⟩ := List.forall_mem_cons.mp wordly
    rw [words_append_blank blank some, word.words_eq, ih others]
    rfl

end Texts

/-! ### Changes of the layout -/

section Layout

open Relation (EqvGen)

variable {s t u w gap other : List Char} {ws : List (List Char)}

theorem Relaid.words_eq (relaid : Relaid s t) : words s = words t := by
  cases relaid with
  | @beside x y gap blank edge =>
    have apart : Apart x y := edge.imp
      (fun last c member => isPlain_eq_false_iff.mpr (Or.inl (last c member)))
      (fun first c member => isPlain_eq_false_iff.mpr (Or.inl (first c member)))
    by_cases some : gap = []
    · rw [some, List.append_nil]
    · rw [words_append_blank blank some, words_append apart]
  | within blank some otherBlank otherSome =>
    rw [words_append_blank blank some, words_append_blank otherBlank otherSome]

theorem words_eq_of_eqvGen (relaid : EqvGen Relaid s t) : words s = words t := by
  induction relaid with
  | rel _ _ step => exact step.words_eq
  | refl => rfl
  | symm _ _ _ ih => exact ih.symm
  | trans _ _ _ _ _ first second => exact first.trans second

/-- White space in one place can be changed as one likes, and go away if a parenthesis or an edge is beside it. -/
theorem eqvGen_between (x y : List Char) (blank : Blank gap) (otherBlank : Blank other)
    (edge : gap = [] ∨ other = [] → (∀ c ∈ x.getLast?, isMark c = true) ∨ ∀ c ∈ y.head?, isMark c = true) :
    EqvGen Relaid (x ++ gap ++ y) (x ++ other ++ y) := by
  by_cases none : gap = [] ∨ other = []
  · have first : EqvGen Relaid (x ++ gap ++ y) (x ++ y) := .rel _ _ (.beside blank (edge none))
    have second : EqvGen Relaid (x ++ other ++ y) (x ++ y) := .rel _ _ (.beside otherBlank (edge none))
    exact first.trans _ _ _ (second.symm _ _)
  · obtain ⟨some, otherSome⟩ := not_or.mp none
    exact .rel _ _ (.within blank some otherBlank otherSome)

/-- Texts with the same words differ by their layout, whatever stands before them. -/
theorem eqvGen_of_spells (first : Spells ws s) (second : Spells ws t) (solid : ∀ c ∈ u.getLast?, Line.isSpace c = false)
    (apart : Apart u s ∧ Apart u t) : EqvGen Relaid (u ++ s) (u ++ t) := by
  -- The white space before one word after the other is changed, from the left to the right.
  induction ws generalizing u s t with
  | nil =>
    have changed := eqvGen_between u [] first.blank second.blank fun _ => Or.inr nofun
    rwa [List.append_nil, List.append_nil] at changed
  | cons w ws ih =>
    have word := first.word w (List.mem_cons_self ..)
    obtain ⟨gap, s, rfl, blank, firstRest, firstApart⟩ := first.first
    obtain ⟨other, t, rfl, otherBlank, secondRest, secondApart⟩ := second.first
    -- White space can go away entirely only where both texts do without it.
    have edge : gap = [] ∨ other = [] →
        (∀ c ∈ u.getLast?, isMark c = true) ∨ ∀ c ∈ (w ++ s).head?, isMark c = true := by
      rw [List.head?_append_of_ne_nil _ word.ne_nil]
      rintro (rfl | rfl)
      · exact Apart.edge (List.nil_append (w ++ s) ▸ apart.1) word solid
      · exact Apart.edge (List.nil_append (w ++ t) ▸ apart.2) word solid
    have last : (u ++ other ++ w).getLast? = w.getLast? := List.getLast?_append_of_ne_nil _ word.ne_nil
    have changed : EqvGen Relaid (u ++ gap ++ (w ++ s)) (u ++ other ++ (w ++ s)) :=
      eqvGen_between u (w ++ s) blank otherBlank edge
    have others : EqvGen Relaid (u ++ other ++ w ++ s) (u ++ other ++ w ++ t) := by
      refine ih firstRest secondRest ?_ ?_
      · rw [last]
        exact fun c member => word.solid c (List.mem_of_getLast? member)
      · rw [Apart, Apart, last]
        exact ⟨firstApart, secondApart⟩
    simp only [List.append_assoc] at changed others ⊢
    exact changed.trans _ _ _ others

theorem words_eq_iff : words s = words t ↔ EqvGen Relaid s t := by
  refine ⟨fun same => ?_, words_eq_of_eqvGen⟩
  have first := spells_words s
  rw [same] at first
  exact eqvGen_of_spells (u := []) first (spells_words t) nofun ⟨Or.inl nofun, Or.inl nofun⟩

/-- A case has the expected tree exactly if the two expressions differ by their layout at most. -/
theorem holds_iff (c : Case) : c.holds = true ↔ EqvGen Relaid c.actual.toList c.expected := by
  rw [holds, beq_iff_eq, words_eq_iff]

/-- Comparing words ignores the layout and nothing else. The words of a text are parentheses, or rows of other characters
without white space. They are all of the text but its white space, in its order; two that stand in a row have only white
space between them in the text, and have some unless one of them is a parenthesis. Put together with any white space
between them they give the same words, and two texts have the same words exactly if they differ by their layout. -/
theorem words_layout (s : List Char) :
    (∀ w ∈ words s, Word w) ∧
    (words s).flatten = s.filter (!Line.isSpace ·) ∧
    (∀ before v w behind, words s = before ++ v :: w :: behind →
      ∃ x gap y, s = x ++ v ++ gap ++ w ++ y ∧ words x = before ∧ words y = behind ∧ Blank gap ∧
        (gap = [] → v = ['('] ∨ v = [')'] ∨ w = ['('] ∨ w = [')'])) ∧
    (∀ text, Joined (words s) text → words text = words s) ∧
    (∀ t, Relaid s t → words s = words t) ∧
    ∀ t, words s = words t ↔ EqvGen Relaid s t := by
  have spells := spells_words s
  refine ⟨spells.word, spells.flatten, fun before v w behind same => ?_, fun text joined => joined.words_eq spells.word,
    fun t => Relaid.words_eq, fun t => words_eq_iff⟩
  -- All but the gap between two words follows from the spelling.
  rw [same] at spells
  obtain ⟨x, gap, y, whole, first, last, blank, edge⟩ := spells.neighbours
  exact ⟨x, gap, y, whole, first.words_eq, last.words_eq, blank, edge⟩

example : words ['(', 'a', ' ', '(', 'b', ')', ')'] = words ['\n', '(', ' ', 'a', '(', 'b', '\t', ')', ')'] ∧
    words ['a', ' ', 'b'] ≠ words ['a', 'b'] := by decide

end Layout
end Case
end Ucode

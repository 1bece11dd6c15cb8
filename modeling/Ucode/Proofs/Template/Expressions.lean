import Ucode.Proofs.Parse.Lexemes
import Ucode.Proofs.Template.Closing

/-!
# Scanning around and inside an expression tag

What the template reader finds between two tags and in an expression tag that holds words and operators with blanks
between them: the text, the marks of the tag, and nothing else.
-/
namespace Ucode.Template

/-- The marks of an expression tag, without trim marks. -/
def expressionMarks : List CodePoint × List CodePoint := (['{', '{'], ['}', '}'])

/-- A code point that can start a word belongs to no set of other characters. -/
theorem isAmong_letter {members : List Char} {a : Nat} (letter : Code.isLetter a = true)
    (others : (members.any fun m => Code.isLetter m.toNat) = false) : CodePoint.isAmong members a = false := by
  have bounds := Code.letter_bounds letter
  -- Membership is decided by the lowest byte, which is all there is of a letter.
  have low : a % 256 = a := Nat.mod_eq_of_lt (by omega)
  have positive : a ≠ 0 := by omega
  have outside : ∀ m ∈ members, a ≠ m.toNat := by
    rintro m member rfl
    have some : (members.any fun m => Code.isLetter m.toNat) = true := List.any_eq_true.mpr ⟨m, member, letter⟩
    rw [others] at some
    exact Bool.false_ne_true some
  simp only [CodePoint.isAmong, low]
  simpa [positive] using fun _ => outside

namespace Context

/-- Behind a tag. -/
def inText : Context := ⟨.text, .none, false, []⟩

/-- Before an expression tag. -/
def atExpression : Context := ⟨.expressionTag, .none, false, []⟩

/-- In an expression tag. -/
def inExpression : Context := ⟨.code, .expression, false, []⟩

/-- Behind the end of the text. -/
def atEnd : Context := ⟨.finished, .none, false, []⟩

variable {accepts : Token → Bool} {text rest : List CodePoint}

theorem start_fresh (accepted : accepts .rawText = true) : fresh.start accepts = inText := by
  unfold start
  rw [accepted]
  rfl

theorem scan_fresh (accepted : accepts .rawText = true) : fresh.scan accepts text = inText.scan accepts text := by
  have begun : inText.start accepts = inText := start_of_begun (by decide) accepts
  rw [scan, scan, start_fresh accepted, begun]

theorem scan_eq (c : Context) (begun : c.mode ≠ .initial) (block : c.block ≠ .statements) :
    c.scan accepts text = (c.scanAny text).accept accepts := by
  have same : c.start accepts = c := start_of_begun begun accepts
  rw [scan, same]
  dsimp only
  rw [if_neg (fun both => block both.1)]

theorem scan_text (accepted : accepts .rawText = true) {n : Nat} {tag : Option Mode}
    (raw : Markup.rawText text = (n, tag)) (kind : tag ≠ some .comment) :
    ∃ read, inText.scan accepts text = ⟨{ inText with mode := tag.getD .finished }, some .rawText, 0, n, read⟩ := by
  rw [scan_eq inText (by decide) (by decide)]
  change ∃ read, (inText.scanText text).accept accepts = _
  unfold scanText
  rw [raw]
  cases tag with
  | none => exact ⟨n, by simp [Scan.accept, Scan.found, accepted, inText]⟩
  | some mode =>
    cases mode with
    | comment => exact absurd rfl kind
    | _ => exact ⟨n + 2, by simp [Scan.accept, accepted, inText]⟩

theorem exists_scan_text (accepted : accepts .rawText = true) (text : List CodePoint) :
    ∃ after read, inText.scan accepts text = ⟨after, some .rawText, 0, (Markup.rawText text).1, read⟩ ∧
      after.nesting = [] := by
  rw [scan_eq inText (by decide) (by decide)]
  change ∃ after read, (inText.scanText text).accept accepts = _ ∧ _
  unfold scanText
  split
  all_goals
    next raw =>
      rw [raw]
      exact ⟨_, _, by simp only [Scan.accept, Scan.found, accepted, if_true]; rfl, rfl⟩

theorem scan_open (rest : List CodePoint) (accepted : accepts .expressionOpen = true) :
    atExpression.scan accepts (expressionMarks.1 ++ (space ++ rest)) = ⟨inExpression, some .expressionOpen, 0, 2, 2⟩ := by
  rw [scan_eq atExpression (by decide) (by decide)]
  simp [scanAny, atExpression, expressionMarks, space, scanExpressionTag, Scan.accept, Scan.found, accepted, openTag,
    inExpression]

theorem scan_close (rest : List CodePoint) (accepted : accepts .expressionClose = true) :
    inExpression.scan accepts (space ++ (expressionMarks.2 ++ rest)) = ⟨inText, some .expressionClose, 1, 3, 3⟩ := by
  rw [scan_eq inExpression (by decide) (by decide)]
  simp [scanAny, inExpression, expressionMarks, space, scanCode, Scan.accept, Scan.found, accepted, closeTag, inText,
    Scan.behind, CodePoint.isBlank, CodePoint.nul]

theorem scanCode_letter (c : Context) {a : Nat} (letter : Code.isLetter a = true) :
    c.scanCode (a :: rest) = .nothing c 0 := by
  have differs : ∀ b : Nat, Code.isLetter b = false → a ≠ b := by
    rintro b other rfl
    rw [other] at letter
    exact Bool.false_ne_true letter
  unfold scanCode
  dsimp only
  rw [if_neg (differs _ rfl), if_neg (differs _ rfl), if_neg (differs _ rfl), if_neg (differs _ rfl),
    if_neg (differs _ rfl), isAmong_letter letter rfl, if_neg Bool.false_ne_true, if_neg (differs _ rfl),
    isAmong_letter letter rfl, if_neg Bool.false_ne_true]

theorem scan_inExpression {a : CodePoint} (unblank : CodePoint.isBlank a = false) :
    inExpression.scan accepts (space ++ (a :: rest)) = ((inExpression.scanCode (a :: rest)).behind 1).accept accepts := by
  have skipped : (space ++ (a :: rest)).dropWhile CodePoint.isBlank = a :: rest := by
    rw [space, List.singleton_append, List.dropWhile_cons_of_pos (by decide),
      List.dropWhile_cons_of_neg (by simp [unblank])]
  have length : (space ++ (a :: rest)).length - (a :: rest).length = 1 := by simp [space]
  rw [scan_eq inExpression (by decide) (by decide), scanAny]
  change (Scan.behind _ (inExpression.scanCode _)).accept accepts = _
  rw [skipped, length]

theorem scan_word {a : Nat} (letter : Code.isLetter a = true) :
    (inExpression.scan accepts (space ++ (a :: rest))).token = none := by
  rw [scan_inExpression (Code.not_isBlank_of_isLetter letter), scanCode_letter inExpression letter]
  rfl

theorem not_closesAt_operator (o : Operator) : ¬Block.expression.ClosesAt (o.text ++ (space ++ rest)) := by
  rintro ⟨mark, member, behind, same⟩
  simp only [Block.closingMarks, List.mem_cons, List.not_mem_nil, or_false] at member
  rcases member with rfl | rfl <;> cases o <;> simp [Operator.text, Operator.spelling, space] at same

/-- Behind an operand only the end of the tag is looked for, and an operator does not end it. -/
theorem scan_operator (only : ∀ t, accepts t = true → t = .expressionClose) (o : Operator)
    (rest : List CodePoint) : (inExpression.scan accepts (space ++ (o.text ++ (space ++ rest)))).token = none := by
  have first : ∃ a behind, o.text ++ (space ++ rest) = a :: behind ∧ CodePoint.isBlank a = false := by
    cases o <;> exact ⟨_, _, rfl, rfl⟩
  obtain ⟨a, behind, begins, unblank⟩ := first
  have clear := begins ▸ not_closesAt_operator o
  rw [begins, scan_inExpression unblank]
  cases found : (inExpression.scanCode (a :: behind)).token with
  | none => simp [Scan.accept, Scan.behind, found]
  | some t =>
    -- What is found there is no end of the tag, be it a regular expression that a slash begins.
    have other : accepts t = false := by
      by_contra accepted
      have closes : t.Closes := Or.inl (only t (by simpa using accepted))
      have outcome := scanCode_outcome inExpression (a :: behind) rfl
      generalize inExpression.scanCode (a :: behind) = s at found outcome
      cases outcome with
      | read reads => exact clear (reads_closes reads found closes).2.1
      | _ => cases found
    simp [Scan.accept, Scan.behind, found, other, Scan.nothing]

theorem scan_end : (atEnd.scan accepts []).token = none := by
  rw [scan_eq atEnd (by decide) (by decide)]
  rfl

end Context
end Ucode.Template

import Mathlib.Data.List.Basic
import Mathlib.Tactic.SplitIfs
import Ucode.Proofs.Template.Coherence

/-!
# Where a scanner takes the text for ended

A scanner tells the end of the text by what it reads there, and a NUL reads the same. So a scan that gives the text up has
read as far as the first NUL of it, and as far as its end only if there is none.
-/
namespace Ucode.Template

namespace Markup

/-- Text with no tag behind it goes as far as the first NUL. -/
theorem rawText_untagged {text : List CodePoint} {n : Nat} (raw : rawText text = (n, none)) :
    n = text.idxOf CodePoint.nul := by
  fun_induction rawText text generalizing n with
  | case1 =>
    cases raw
    rfl
  | case2 rest =>
    cases raw
    exact (List.idxOf_cons_self).symm
  | case3 => cases raw
  | case4 c rest inside _ m mode returned ih =>
    obtain ⟨rfl, rfl⟩ := Prod.mk.inj raw
    rw [List.idxOf_cons_ne _ inside, ih returned]

/-- So does a comment that is not taken for closed, and if its closing mark is there then right behind it. -/
theorem rawComment_unclosed {text : List CodePoint} {n : Nat} (raw : rawComment text = (n, false)) :
    n = text.idxOf CodePoint.nul := by
  -- Besides NUL only a closing mark stops the walk, and if it does not close the comment a NUL stands behind it.
  fun_induction rawComment text generalizing n with
  | case1 =>
    cases raw
    rfl
  | case2 rest =>
    cases raw
    exact (List.idxOf_cons_self).symm
  | case3 c rest inside mark =>
    obtain ⟨rfl, unfollowed⟩ := Prod.mk.inj raw
    obtain ⟨brace, next⟩ := mark
    obtain ⟨others, rfl⟩ := List.head?_eq_some_iff.mp next
    rw [List.idxOf_cons_ne _ inside, List.idxOf_cons_ne _ (by decide)]
    cases others with
    | nil => rfl
    | cons d others =>
      obtain rfl : d = CodePoint.nul := by simpa using unfollowed
      rw [List.idxOf_cons_self]
  | case4 c rest inside _ m closed returned ih =>
    obtain ⟨rfl, rfl⟩ := Prod.mk.inj raw
    rw [List.idxOf_cons_ne _ inside, ih returned]

end Markup

theorem idxOf_nul_append {gap : List CodePoint} (blank : ∀ x ∈ gap, CodePoint.isBlank x = true) (rest : List CodePoint) :
    (gap ++ rest).idxOf CodePoint.nul = gap.length + rest.idxOf CodePoint.nul := by
  refine List.idxOf_append_of_notMem ?_
  intro member
  exact absurd (blank _ member) (by decide)

theorem idxOf_nul_blanks (text : List CodePoint) :
    (text.takeWhile CodePoint.isBlank).length + (text.dropWhile CodePoint.isBlank).idxOf CodePoint.nul =
      text.idxOf CodePoint.nul := by
  have whole := idxOf_nul_append (Context.blanks_blank text) (text.dropWhile CodePoint.isBlank)
  rw [← Context.blanks_append] at whole
  exact whole.symm

namespace Context

variable {c : Context} {accepts : Token → Bool} {text : List CodePoint} {s : Scan}

section Going

variable (going : c.mode ≠ .finished)
include going

theorem closeBrace_going : c.closeBrace.2.mode ≠ .finished := by
  unfold closeBrace
  split
  · exact going
  · exact Mode.noConfusion
  · exact going

theorem openBrace_going : c.openBrace.mode ≠ .finished := by
  rw [c.openBrace_same.1]
  exact going

theorem scanLiteral_going (delimiter : CodePoint) (offset : Nat) (text : List CodePoint) :
    (c.scanLiteral delimiter offset text).context.mode ≠ .finished := by
  unfold scanLiteral
  dsimp only
  split
  · exact going
  · dsimp only
    split_ifs
    · exact Mode.noConfusion
    · exact going

theorem scanCode_going {a : CodePoint} (inside : a ≠ CodePoint.nul) (rest : List CodePoint) :
    (c.scanCode (a :: rest)).context.mode ≠ .finished := by
  unfold scanCode
  dsimp only
  rw [if_neg inside]
  -- One case for each branch, in the order in which they are tried.
  split_ifs
  · split
    · split_ifs
      · exact Mode.noConfusion
      · exact Mode.noConfusion
      · exact going
    · exact going
  · exact Mode.noConfusion
  · exact going
  · exact Mode.noConfusion
  · exact closeBrace_going going
  · exact openBrace_going going
  · exact scanLiteral_going going _ _ _
  · exact going
  · exact scanLiteral_going going _ _ _
  · exact going
  · exact going
  · exact going

end Going

theorem scanText_finishes (finishes : (c.scanText text).context.mode = .finished) :
    (c.scanText text).read = text.idxOf CodePoint.nul := by
  revert finishes
  unfold scanText
  split
  · next raw => exact fun _ => Markup.rawText_untagged raw
  · exact Mode.noConfusion
  · next tag _ raw =>
    -- Text only ever stops before an opening mark.
    intro finishes
    have kind := Markup.opener?_kind _ tag (Markup.opener?_rawText text tag (by rw [raw]))
    rcases kind with rfl | rfl | rfl <;> cases finishes

theorem scanComment_finishes (finishes : (c.scanComment text).context.mode = .finished) :
    (c.scanComment text).read = text.idxOf CodePoint.nul := by
  revert finishes
  unfold scanComment
  split
  · exact Mode.noConfusion
  · next raw => exact fun _ => Markup.rawComment_unclosed raw

theorem scanCode_finishes (going : c.mode ≠ .finished) (finishes : (c.scanCode text).context.mode = .finished) :
    (c.scanCode text).read = text.idxOf CodePoint.nul := by
  cases text with
  | nil => rfl
  | cons a rest =>
    obtain rfl : a = CodePoint.nul := by
      by_contra inside
      exact scanCode_going going inside rest finishes
    rw [List.idxOf_cons_self]
    rfl

/-- At the mark of a tag or a placeholder and in a template literal the text is not given up. -/
theorem Outcome.going (outcome : Outcome c text s) (going : c.mode ≠ .finished)
    (elsewhere : c.mode ≠ .text ∧ c.mode ≠ .comment ∧ c.mode ≠ .code) : s.context.mode ≠ .finished := by
  obtain ⟨text, comment, code⟩ := elsewhere
  cases outcome with
  | read reads =>
    -- No rule for these modes leads to the end.
    cases reads with
    | expressionOpen => exact Mode.noConfusion
    | statementOpen => exact Mode.noConfusion
    | placeholderOpen => exact Mode.noConfusion
    | template =>
      dsimp only
      split_ifs <;> exact Mode.noConfusion
    | _ => contradiction
  | stay => exact going
  | finish _ mode =>
    rcases mode with mode | mode
    · exact absurd mode comment
    · exact absurd mode code
  | leave => exact Mode.noConfusion

theorem scanAny_finishes (going : c.mode ≠ .finished) (finishes : (c.scanAny text).context.mode = .finished) :
    (c.scanAny text).read = text.idxOf CodePoint.nul := by
  -- Text is given up in three modes only, so in every other one there is nothing to show.
  have elsewhere : ∀ s, Outcome c text s → s.context.mode = .finished →
      ¬(c.mode ≠ .text ∧ c.mode ≠ .comment ∧ c.mode ≠ .code) :=
    fun s outcome finishes elsewhere => outcome.going going elsewhere finishes
  revert finishes
  unfold scanAny
  cases mode : c.mode with
  | initial => exact fun finishes => absurd finishes going
  | text => exact scanText_finishes
  | comment => exact scanComment_finishes
  | expressionTag =>
    exact fun finishes => absurd (by simp [mode]) (elsewhere _ (scanExpressionTag_outcome c text mode) finishes)
  | statementTag =>
    exact fun finishes => absurd (by simp [mode]) (elsewhere _ (scanStatementTag_outcome c text mode) finishes)
  | code =>
    intro finishes
    have read := scanCode_finishes going finishes
    dsimp only [Scan.behind]
    rw [read, blanks_length, Nat.add_comm, idxOf_nul_blanks]
  | placeholder =>
    exact fun finishes => absurd (by simp [mode]) (elsewhere _ (scanPlaceholder_outcome c text mode) finishes)
  | template =>
    exact fun finishes => absurd (by simp [mode]) (elsewhere _ (scanTemplate_outcome c text mode) finishes)
  | finished => exact absurd mode going

/-- A scan that gives the text up, whether it finds a token or not, has read as far as the first NUL of the text that is left,
or as far as its end if there is none. So it has read everything exactly if no NUL is left. -/
theorem scan_finishes (accepts : Token → Bool) (c : Context) (text : List CodePoint)
    (going : (c.start accepts).mode ≠ .finished) (finishes : (c.scan accepts text).context.mode = .finished) :
    (c.scan accepts text).read = text.idxOf CodePoint.nul ∧
      ((c.scan accepts text).read = text.length ↔ CodePoint.nul ∉ text) := by
  have read : (c.scan accepts text).read = text.idxOf CodePoint.nul := by
    revert finishes
    unfold scan
    dsimp only
    split_ifs
    · rw [blanks_length]
      split
      · next outcome semicolon =>
        -- Where semicolons are looked for the scanner stays in its mode.
        rcases scanSemicolon_cases _ _ outcome semicolon with ⟨_, _, rfl⟩ | ⟨_, _, rfl⟩ | rfl
        all_goals exact fun finishes => absurd finishes going
      · intro finishes
        dsimp only [Scan.behind] at finishes ⊢
        obtain ⟨mode, read⟩ := accept_mode accepts ((c.start accepts).scanAny (text.dropWhile CodePoint.isBlank))
        rw [mode] at finishes
        rw [read, scanAny_finishes going finishes, Nat.add_comm, idxOf_nul_blanks]
    · obtain ⟨mode, read⟩ := accept_mode accepts ((c.start accepts).scanAny text)
      rw [mode, read]
      exact scanAny_finishes going
  refine ⟨read, ?_⟩
  rw [read, List.idxOf_eq_length_iff]

/-- A comment with a NUL right behind its closing mark is given up there. -/
theorem scan_finishes_comment :
    let c : Context := ⟨.comment, .comment, false, []⟩
    let text := ['{', '#', 'a', '#', '}', '\x00', 'b'].map Char.toNat
    (c.start fun _ => true).mode ≠ .finished ∧ (c.scan (fun _ => true) text).context.mode = .finished ∧
      (c.scan (fun _ => true) text).read = 5 := by
  intro c text
  have going : (c.start fun _ => true).mode ≠ .finished := by decide
  have finishes : (c.scan (fun _ => true) text).context.mode = .finished := by decide
  refine ⟨going, finishes, ?_⟩
  exact (scan_finishes _ c text going finishes).1

/-- Text behind a NUL is dropped: the scanner takes the NUL for the end, and nothing is found from there on. -/
theorem nul_ends_text :
    let text := ['a', '\x00', 'b'].map Char.toNat
    let s := fresh.scan (fun _ => true) text
    (fresh.start fun _ => true).mode ≠ .finished ∧ s.context.mode = .finished ∧ s.read < text.length ∧
      (s.context.scan (fun _ => true) (text.drop s.stop)).token = none := by
  decide

end Context
end Ucode.Template

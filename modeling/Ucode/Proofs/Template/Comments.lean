import Mathlib.Data.Nat.Find
import Mathlib.Tactic.SplitIfs
import Ucode.Proofs.Template.Outcome

/-!
# Where a comment ends

A comment is read from its opening mark on, and up to the first closing mark that stands in it. The opening mark is read
along, so its second half can be the first half of the closing mark; and a comment behind which the text ends is not taken
for closed. In all other texts a comment ends behind the first closing mark that follows its opening mark.
-/
namespace Ucode.Template

namespace Markup

/-- The mark that opens a comment. -/
def commentOpening : List CodePoint := [Char.toNat '{', Char.toNat '#']

/-- The mark that closes a comment. -/
def commentClosing : List CodePoint := [Char.toNat '#', Char.toNat '}']

/-- Of the closing marks from a place on, the first one stands at another place. -/
structure ClosesFirst (text : List CodePoint) (place mark : Nat) : Prop where
  behind : place ≤ mark
  here : commentClosing <+: text.drop mark
  first : ∀ i, place ≤ i → i < mark → ¬commentClosing <+: text.drop i

theorem commentClosing_length {text : List CodePoint} {mark : Nat} (here : commentClosing <+: text.drop mark) :
    mark + 2 ≤ text.length := by
  have fits := here.length_le
  rw [List.length_drop] at fits
  simp only [commentClosing, List.length_cons, List.length_nil] at fits
  omega

theorem commentClosing_cons_iff (c : CodePoint) (rest : List CodePoint) :
    commentClosing <+: c :: rest ↔ c = '#' ∧ rest.head? = some (Char.toNat '}') := by
  rw [commentClosing, List.cons_prefix_cons, eq_comm]
  refine and_congr_right fun _ => ?_
  cases rest with
  | nil => simp
  | cons d others => simp [List.cons_prefix_cons, eq_comm]

namespace ClosesFirst

variable {text : List CodePoint} {place mark other : Nat}

theorem unique (first : ClosesFirst text place mark) (second : ClosesFirst text place other) : mark = other := by
  rcases Nat.lt_trichotomy mark other with less | same | more
  · exact absurd first.here (second.first mark first.behind less)
  · exact same
  · exact absurd second.here (first.first other second.behind more)

theorem exists_of_mark (behind : place ≤ mark) (here : commentClosing <+: text.drop mark) :
    ∃ first, ClosesFirst text place first := by
  classical
  have found : ∃ i, place ≤ i ∧ commentClosing <+: text.drop i := ⟨mark, behind, here⟩
  obtain ⟨least, closes⟩ := Nat.find_spec found
  exact ⟨Nat.find found, least, closes, fun i later less mark => Nat.find_min found less ⟨later, mark⟩⟩

/-- A place at which no closing mark stands can be passed over. -/
theorem succ_iff (none : ¬commentClosing <+: text.drop place) :
    ClosesFirst text (place + 1) mark ↔ ClosesFirst text place mark := by
  constructor
  · rintro ⟨behind, here, first⟩
    refine ⟨by omega, here, fun i later less => ?_⟩
    rcases Nat.eq_or_lt_of_le later with rfl | more
    · exact none
    · exact first i more less
  · rintro ⟨behind, here, first⟩
    have different : mark ≠ place := by
      rintro rfl
      exact none here
    exact ⟨by omega, here, fun i later less => first i (by omega) less⟩

theorem drop_iff : ClosesFirst (text.drop place) 0 mark ↔ ClosesFirst text place (place + mark) := by
  constructor
  · rintro ⟨_, here, first⟩
    rw [List.drop_drop] at here
    refine ⟨Nat.le_add_right _ _, here, fun i later less closes => ?_⟩
    apply first (i - place) (Nat.zero_le _) (by omega)
    rwa [List.drop_drop, Nat.add_sub_cancel' later]
  · rintro ⟨_, here, first⟩
    refine ⟨Nat.zero_le _, by rwa [List.drop_drop], fun i _ less closes => ?_⟩
    rw [List.drop_drop] at closes
    exact first (place + i) (Nat.le_add_right _ _) (by omega) closes

end ClosesFirst

variable {text : List CodePoint}

/-- A comment is read up to the first closing mark, and it is closed if more text follows. -/
theorem rawComment_of_first {mark : Nat} (plain : ∀ x ∈ text, x ≠ CodePoint.nul) (first : ClosesFirst text 0 mark) :
    rawComment text = (mark + 2, decide (mark + 2 < text.length)) := by
  fun_induction rawComment text generalizing mark with
  | case1 => exact absurd (commentClosing_length first.here) (by simp)
  | case2 => exact absurd rfl (plain _ (List.mem_cons_self ..))
  | case3 c rest _ closes =>
    have here : ClosesFirst (c :: rest) 0 0 :=
      ⟨Nat.le_refl _, (commentClosing_cons_iff c rest).mpr closes, fun i _ less => absurd less (Nat.not_lt_zero i)⟩
    obtain rfl := first.unique here
    obtain ⟨others, rfl⟩ := List.head?_eq_some_iff.mp closes.2
    cases others with
    | nil => rfl
    | cons d others =>
      have more : d ≠ CodePoint.nul := plain d (by simp)
      simpa using more
  | case4 c rest _ open' n closed read ih =>
    -- No mark stands here, so the first one is one place nearer in the rest.
    have none : ¬commentClosing <+: (c :: rest).drop 0 := mt (commentClosing_cons_iff c rest).mp open'
    have later := (ClosesFirst.succ_iff none).mpr first
    obtain ⟨k, rfl⟩ := Nat.exists_eq_add_of_le' later.behind
    rw [Nat.zero_add, Nat.add_comm] at later
    have inner := ih (fun x member => plain x (List.mem_cons_of_mem c member)) (ClosesFirst.drop_iff.mpr later)
    rw [read] at inner
    obtain ⟨rfl, rfl⟩ := Prod.mk.inj inner
    have same : k + 2 < rest.length ↔ k + 1 + 2 < (c :: rest).length := by
      rw [List.length_cons]
      omega
    exact Prod.ext (Nat.add_right_comm k 2 1) (decide_eq_decide.mpr same)

theorem rawComment_of_none (none : ∀ i, ¬commentClosing <+: text.drop i) : (rawComment text).2 = false := by
  fun_induction rawComment text with
  | case1 => rfl
  | case2 => rfl
  | case3 c rest _ closes => exact absurd ((commentClosing_cons_iff c rest).mpr closes) (none 0)
  | case4 c rest _ _ n closed read ih =>
    rw [read] at ih
    exact ih fun i => none (i + 1)

/-- No closing mark begins where a comment opens. -/
theorem not_closing_of_opening {place : Nat} (opens : commentOpening <+: text.drop place) :
    ¬commentClosing <+: text.drop place := by
  obtain ⟨rest, split⟩ := opens
  rw [← split]
  simp [commentOpening, commentClosing, List.cons_prefix_cons]

/-- A comment at a place is read as its marks are written: it is found exactly if a closing mark stands behind its opening
mark, it ends behind the first of these, and it leaves text. -/
def ReadsComment (text : List CodePoint) (place : Nat) (s : Scan) : Prop :=
  (s.token.isSome = true ↔ ∃ i, place + 2 ≤ i ∧ commentClosing <+: text.drop i) ∧
    ∀ i, ClosesFirst text (place + 2) i → s.token = some .rawComment ∧ s.start = 0 ∧ place + s.stop = i + 2 ∧
      s.context.mode = .text ∧ s.context.block = .none

end Markup

namespace Context

open Markup

section Comment

variable {accepts : Token → Bool} {c : Context} {text : List CodePoint} {place : Nat}

theorem scan_inComment (mode : c.mode = .comment) (block : c.block = .comment) :
    c.scan accepts text = (c.scanComment text).accept accepts := by
  have begun : c.start accepts = c := by simp [start, mode]
  unfold scan
  rw [begun, if_neg (by simp [block])]
  unfold scanAny
  rw [mode]

variable (plain : ∀ x ∈ text, x ≠ CodePoint.nul) (mode : c.mode = .comment) (block : c.block = .comment)
  (opens : commentOpening <+: text.drop place)

include plain mode block opens

/-- The first closing mark behind the brace that opens a comment ends it, if the text goes on. -/
theorem scan_comment_closed {mark : Nat} (accepted : accepts .rawComment = true)
    (first : ClosesFirst text (place + 1) mark) (more : mark + 2 < text.length) : c.scan accepts (text.drop place) =
      .found ⟨.text, .none, false, c.nesting⟩ .rawComment (mark + 2 - place) := by
  obtain ⟨k, rfl⟩ := Nat.exists_eq_add_of_le (Nat.le_of_succ_le first.behind)
  have here := ClosesFirst.drop_iff.mpr ((ClosesFirst.succ_iff (not_closing_of_opening opens)).mp first)
  have raw := rawComment_of_first (fun x member => plain x (List.mem_of_mem_drop member)) here
  have goes : k + 2 < (text.drop place).length := by
    rw [List.length_drop]
    omega
  rw [decide_eq_true goes] at raw
  have length : place + k + 2 - place = k + 2 := by omega
  rw [scan_inComment mode block, scanComment, raw, length]
  simp [Scan.accept, Scan.found, accepted, closeTag]

/-- If it does not go on, or if there is none, nothing is found, and the text is given up. -/
theorem scan_comment_open (last : ∀ mark, ClosesFirst text (place + 1) mark → mark + 2 = text.length) :
    (c.scan accepts (text.drop place)).token = none ∧
      (c.scan accepts (text.drop place)).context = { c with mode := .finished } := by
  -- If a mark stands anywhere, the first one ends the text, so the comment counts as not closed.
  have unread : (rawComment (text.drop place)).2 = false := by
    by_cases closes : ∃ i, commentClosing <+: (text.drop place).drop i
    · obtain ⟨i, mark⟩ := closes
      obtain ⟨k, here⟩ := ClosesFirst.exists_of_mark (Nat.zero_le i) mark
      have raw := rawComment_of_first (fun x member => plain x (List.mem_of_mem_drop member)) here
      have stands := ClosesFirst.drop_iff.mp here
      have ends := last _ ((ClosesFirst.succ_iff (not_closing_of_opening opens)).mpr stands)
      rw [raw, decide_eq_false_iff_not, List.length_drop]
      omega
    · exact rawComment_of_none (not_exists.mp closes)
  obtain ⟨n, raw⟩ : ∃ n, rawComment (text.drop place) = (n, false) := ⟨_, Prod.ext rfl unread⟩
  rw [scan_inComment mode block, scanComment, raw]
  exact ⟨rfl, rfl⟩

/-- If the opening mark runs over into a closing mark, that mark is taken, and the comment is only read as it is written
where there is nothing more to read. -/
theorem readsComment_of_overlap (accepted : accepts .rawComment = true)
    (overlap : commentClosing <+: text.drop (place + 1)) :
    ReadsComment text place (c.scan accepts (text.drop place)) ↔ place + 3 = text.length := by
  have first : ClosesFirst text (place + 1) (place + 1) := ⟨Nat.le_refl _, overlap, fun i _ _ => by omega⟩
  have fits := commentClosing_length overlap
  constructor
  · rintro ⟨found, ends⟩
    by_contra more
    have read := scan_comment_closed plain mode block opens accepted first (by omega)
    -- What is read ends behind the overlapping mark, which is before any mark that stands after the opening one.
    obtain ⟨i, later, mark⟩ := found.mp (by rw [read]; rfl)
    obtain ⟨k, least⟩ := ClosesFirst.exists_of_mark later mark
    have stop := (ends k least).2.2.1
    rw [read] at stop
    have behind := least.behind
    simp only [Scan.found] at stop
    omega
  · intro last
    have nowhere : ∀ i, place + 2 ≤ i → ¬commentClosing <+: text.drop i := by
      intro i later mark
      have room := commentClosing_length mark
      omega
    obtain ⟨nothing, _⟩ := scan_comment_open plain mode block opens fun mark closes => by
      rw [closes.unique first]
      omega
    rw [ReadsComment, nothing]
    exact ⟨⟨fun some => absurd some (by simp), fun ⟨i, later, mark⟩ => absurd mark (nowhere i later)⟩,
      fun i closes => absurd closes.here (nowhere i closes.behind)⟩

/-- If it does not, both ways to look for the first closing mark find the same, and text has to follow it. -/
theorem readsComment_of_apart (accepted : accepts .rawComment = true)
    (apart : ¬commentClosing <+: text.drop (place + 1)) :
    ReadsComment text place (c.scan accepts (text.drop place)) ↔
      ∀ mark, ClosesFirst text (place + 2) mark → mark + 2 < text.length := by
  -- Only at the place of the overlap do the two searches differ, and there no mark stands.
  have same (mark : Nat) := @ClosesFirst.succ_iff text (place + 1) mark apart
  constructor
  · rintro ⟨_, ends⟩ mark closes
    by_contra last
    have room := commentClosing_length closes.here
    obtain ⟨nothing, _⟩ := scan_comment_open plain mode block opens fun other first => by
      rw [((same other).mpr first).unique closes]
      omega
    obtain ⟨token, _⟩ := ends mark closes
    rw [nothing] at token
    cases token
  · intro goes
    have closed (k : Nat) (least : ClosesFirst text (place + 2) k) :=
      scan_comment_closed plain mode block opens accepted ((same k).mp least) (goes k least)
    refine ⟨⟨fun found => ?_, fun ⟨i, later, mark⟩ => ?_⟩, fun i closes => ?_⟩
    · -- Without a mark nothing would have been found.
      by_contra none
      obtain ⟨nothing, _⟩ := scan_comment_open plain mode block opens fun mark first =>
        absurd ⟨mark, ((same mark).mpr first).behind, first.here⟩ none
      rw [nothing] at found
      cases found
    · obtain ⟨k, least⟩ := ClosesFirst.exists_of_mark later mark
      rw [closed k least]
      rfl
    · have behind := closes.behind
      rw [closed i closes]
      refine ⟨rfl, rfl, ?_, rfl, rfl⟩
      dsimp only [Scan.found]
      omega

/-- A comment ends behind the first closing mark after its brace, if text follows there; else it is not found and the text
is given up. So it is read as its marks are written unless its opening mark runs over into a closing mark, or the text
ends behind the first closing mark. -/
theorem scan_comment (accepted : accepts .rawComment = true) :
    let s := c.scan accepts (text.drop place)
    (∀ mark, ClosesFirst text (place + 1) mark → mark + 2 < text.length →
      s = .found ⟨.text, .none, false, c.nesting⟩ .rawComment (mark + 2 - place)) ∧
    ((∀ mark, ClosesFirst text (place + 1) mark → mark + 2 = text.length) →
      s.token = none ∧ s.context = { c with mode := .finished }) ∧
    (ReadsComment text place s ↔
      if commentClosing <+: text.drop (place + 1) then place + 3 = text.length
      else ∀ mark, ClosesFirst text (place + 2) mark → mark + 2 < text.length) := by
  intro s
  refine ⟨fun mark => scan_comment_closed plain mode block opens accepted, scan_comment_open plain mode block opens, ?_⟩
  split_ifs with overlap
  · exact readsComment_of_overlap plain mode block opens accepted overlap
  · exact readsComment_of_apart plain mode block opens accepted overlap

end Comment

/-- A comment with text behind it is read as its marks are written. -/
theorem scan_comment_followed :
    let text := ['a', '{', '#', '#', ' ', '#', '}', '.'].map Char.toNat
    let s := (Context.mk .comment .comment false []).scan (fun t => t = .rawComment) (text.drop 1)
    s = .found ⟨.text, .none, false, []⟩ .rawComment 6 ∧ ReadsComment text 1 s := by
  refine ⟨by decide, (scan_comment ?_ rfl rfl ?_ rfl).2.2.mpr ?_⟩
  · decide
  · decide
  · rw [if_neg (by decide)]
    intro mark closes
    have five : ClosesFirst (['a', '{', '#', '#', ' ', '#', '}', '.'].map Char.toNat) (1 + 2) 5 :=
      ⟨by decide, by decide, by decide⟩
    rw [closes.unique five]
    decide

/-- A comment at the very end of a text is not found, and one that starts with a brace ends there. -/
theorem comment_misread :
    let scanned := (Context.mk .comment .comment false []).scan (fun _ => true)
    let last := ['{', '#', ' ', '#', '}'].map Char.toNat
    let braced := ['{', '#', '}', ' ', '#', '}', '.'].map Char.toNat
    ¬ReadsComment last 0 (scanned last) ∧ ¬ReadsComment braced 0 (scanned braced) := by
  refine ⟨fun reads => ?_, fun reads => ?_⟩
  · exact absurd (reads.1.mpr ⟨3, by decide, by decide⟩) (by decide)
  · exact absurd (reads.2 4 ⟨by decide, by decide, by decide⟩).2.2.1 (by decide)

end Context
end Ucode.Template

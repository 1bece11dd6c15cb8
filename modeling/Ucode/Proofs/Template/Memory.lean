import Mathlib.Data.List.Induction
import Mathlib.Tactic.SplitIfs
import Ucode.Proofs.Template.Nesting
import Ucode.Proofs.Template.Snapshot
import Ucode.Template.Memory

/-!
# A scanner does what its context does

A block of words that holds a nesting has a word for each placeholder that is open, and it goes on doing so whatever token is
read: no access reaches beyond the block and no count goes below zero. So a scanner always has an outcome, and
its context goes the way that `Context` describes.
-/
namespace Ucode.Template

/-- A nesting becomes another by what a token does to it, or stays as it is where there is no token. -/
def Token.Nests (nesting after : List Nat) : Option Token → Prop
  | none => after = nesting
  | some t => t.Fits nesting ∧ after = t.nest nesting

namespace Store

/-- A block whose words in use are the counts of a nesting, the outermost first. -/
structure Holds (s : Store) (nesting : List Nat) : Prop where
  depth : s.depth = nesting.length
  words : nesting.reverse.map some <+: s.words

variable {s : Store} {nesting outer : List Nat} {count : Nat}

theorem empty_holds : empty.Holds [] := ⟨rfl, List.prefix_refl _⟩

/-- A block in which every word in use is there and was written. -/
def Written (s : Store) : Prop := ∀ i < s.depth, ∃ count, s.read i = some count

theorem Holds.depth_le (holds : s.Holds nesting) : s.depth ≤ s.words.length := by
  have bound := holds.words.length_le
  rwa [List.length_map, List.length_reverse, ← holds.depth] at bound

theorem Holds.nesting_eq (holds : s.Holds nesting) : s.nesting = nesting := by
  obtain ⟨spare, split⟩ := holds.words
  have taken : s.words.take s.depth = nesting.reverse.map some := by
    rw [← split, holds.depth, List.take_left' (by simp)]
  rw [Store.nesting, taken, List.filterMap_map]
  simp

theorem Holds.read_of_lt (holds : s.Holds nesting) (i : Nat) (used : i < s.depth) :
    s.read i = nesting.reverse[i]? := by
  obtain ⟨spare, split⟩ := holds.words
  have inside : i < (nesting.reverse.map some).length := by simpa [← holds.depth] using used
  rw [read, ← split, List.getElem?_append_left inside, List.getElem?_map]
  cases nesting.reverse[i]? <;> rfl

theorem Holds.written (holds : s.Holds nesting) : s.Written := by
  intro i used
  have inside : i < nesting.reverse.length := by rwa [List.length_reverse, ← holds.depth]
  exact ⟨nesting.reverse[i], by rw [holds.read_of_lt i used, List.getElem?_eq_getElem inside]⟩

theorem map_some_filterMap (words : List (Option Nat)) (all : ∀ w ∈ words, w ≠ none) :
    (words.filterMap id).map some = words := by
  induction words with
  | nil => rfl
  | cons w words ih =>
    obtain ⟨count, rfl⟩ := Option.ne_none_iff_exists'.mp (all w List.mem_cons_self)
    have others := ih fun w member => all w (List.mem_cons_of_mem _ member)
    have head : id (some count) = some count := rfl
    rw [List.filterMap_cons_some head, List.map_cons, others]

/-- A block in which every word in use was written holds the nesting that is read off it. -/
theorem Written.holds (written : s.Written) : s.Holds s.nesting := by
  -- A word in use that was written is there, so the block is long enough.
  have room : s.depth ≤ s.words.length := by
    by_contra short
    obtain ⟨count, there⟩ := written s.words.length (by omega)
    simp [read] at there
  have all : ∀ w ∈ s.words.take s.depth, w ≠ none := by
    intro w member absent
    obtain ⟨i, inside, here⟩ := List.mem_take_iff_getElem.mp member
    obtain ⟨count, there⟩ := written i (by omega)
    rw [read, List.getElem?_eq_getElem (by omega), here, absent] at there
    cases there
  -- The words in use are the counts that are read off them, with none left out.
  have whole : s.nesting.reverse.map some = s.words.take s.depth := by
    rw [Store.nesting, List.reverse_reverse, map_some_filterMap _ all]
  refine ⟨?_, ?_⟩
  · have length := congrArg List.length whole
    rw [List.length_map, List.length_reverse, List.length_take, Nat.min_eq_left room] at length
    exact length.symm
  · rw [whole]
    exact List.take_prefix _ _

theorem Holds.split (holds : s.Holds (count :: outer)) :
    ∃ spare, s.words = outer.reverse.map some ++ some count :: spare := by
  obtain ⟨spare, split⟩ := holds.words
  refine ⟨spare, ?_⟩
  rw [← split, List.reverse_cons, List.map_append, List.append_assoc]
  rfl

theorem Holds.read_last (holds : s.Holds (count :: outer)) : s.read outer.length = some count := by
  obtain ⟨spare, split⟩ := holds.split
  rw [read, split, List.getElem?_append_right (by simp)]
  simp

theorem Holds.write_last (holds : s.Holds (count :: outer)) (changed : Nat) :
    ∃ after, s.write outer.length changed = some after ∧ after.Holds (changed :: outer) := by
  obtain ⟨spare, split⟩ := holds.split
  have room : outer.length < s.words.length := by
    rw [split, List.length_append, List.length_cons, List.length_map, List.length_reverse]
    omega
  refine ⟨{ s with words := s.words.set outer.length (some changed) }, if_pos room, holds.depth, spare, ?_⟩
  rw [split, List.set_append_right _ _ (by simp)]
  simp

theorem Holds.openBrace (holds : s.Holds nesting) :
    ∃ after, s.openBrace = some after ∧ after.Holds (Token.braceOpen.nest nesting) := by
  unfold Store.openBrace
  cases nesting with
  | nil => exact ⟨s, by rw [holds.depth]; rfl, holds⟩
  | cons count outer =>
    obtain ⟨after, written, held⟩ := holds.write_last (count + 1)
    refine ⟨after, ?_, held⟩
    simp only [holds.depth, List.length_cons]
    rw [holds.read_last]
    exact written

theorem Holds.closeBraceAs (holds : s.Holds nesting) (token : Token)
    (closing : token = .braceClose ∨ token = .placeholderClose) (fits : token.Fits nesting) :
    ∃ after, s.closeBraceAs token = some after ∧ after.Holds (token.nest nesting) := by
  unfold Store.closeBraceAs Store.closeBrace
  cases nesting with
  | nil =>
    rcases closing with rfl | rfl
    · exact ⟨s, by rw [holds.depth]; rfl, holds⟩
    · cases fits
  | cons count outer =>
    simp only [holds.depth, List.length_cons]
    rw [holds.read_last]
    rcases closing with rfl | rfl
    · -- A brace in the placeholder closes, so one is open there.
      obtain ⟨fewer, rfl⟩ : ∃ fewer, count = fewer + 1 :=
        Nat.exists_eq_succ_of_ne_zero (by simpa [Token.Fits] using fits)
      obtain ⟨after, written, held⟩ := holds.write_last fewer
      refine ⟨after, ?_, held⟩
      simp [less?, written]
    · -- The placeholder closes, so no brace is open in it; its word is not given back.
      obtain rfl : count = 0 := by simpa [Token.Fits] using fits
      refine ⟨{ s with depth := outer.length }, rfl, rfl, ?_⟩
      obtain ⟨spare, split⟩ := holds.split
      exact ⟨some 0 :: spare, split.symm⟩

theorem Holds.openPlaceholder (holds : s.Holds nesting) :
    ∃ after, s.openPlaceholder = some after ∧ after.Holds (0 :: nesting) := by
  obtain ⟨spare, split⟩ := holds.words
  have depth := holds.depth
  -- The block is as long as it has to be: either a word was left behind those in use, or it grows by one.
  have grown : ∃ word others, (s.resize (s.depth + 1)).words = nesting.reverse.map some ++ word :: others := by
    have kept : (nesting.reverse.map some).take (nesting.length + 1) = nesting.reverse.map some :=
      List.take_of_length_le (by simp)
    unfold resize
    dsimp only
    rw [← split, depth, List.take_append, kept, List.append_assoc]
    cases spare with
    | nil => exact ⟨none, [], by simp⟩
    | cons word others => exact ⟨word, [], by simp⟩
  obtain ⟨word, others, grown⟩ := grown
  have room : s.depth < (s.resize (s.depth + 1)).words.length := by
    rw [grown, List.length_append, List.length_cons, List.length_map, List.length_reverse, depth]
    omega
  unfold Store.openPlaceholder write
  rw [if_pos room]
  refine ⟨_, rfl, ?_, others, ?_⟩
  · rw [List.length_cons, depth]
  · dsimp only
    rw [grown, depth, List.set_append_right _ _ (by simp)]
    simp

/-- A token changes the words that hold a nesting as it changes the nesting. -/
theorem Holds.take {after : List Nat} {token : Option Token} (holds : s.Holds nesting)
    (nests : Token.Nests nesting after token) : ∃ taken, s.take token = some taken ∧ taken.Holds after := by
  cases token with
  | none =>
    rw [show after = nesting from nests]
    exact ⟨s, rfl, holds⟩
  | some t =>
    obtain ⟨fits, rfl⟩ := nests
    cases t with
    | braceOpen => exact holds.openBrace
    | braceClose => exact holds.closeBraceAs .braceClose (Or.inl rfl) fits
    | placeholderClose => exact holds.closeBraceAs .placeholderClose (Or.inr rfl) fits
    | placeholderOpen => exact holds.openPlaceholder
    | _ => exact ⟨s, rfl, holds⟩

theorem dump_prefix (s : Store) (counts : List Nat) (written : counts.map some <+: s.words) :
    s.dump counts.length = some counts := by
  induction counts using List.reverseRecOn with
  | nil => rfl
  | append_singleton front count ih =>
    obtain ⟨spare, split⟩ := written
    have front_written : front.map some <+: s.words := ⟨some count :: spare, by rw [← split]; simp⟩
    have last : s.read front.length = some count := by
      rw [read, ← split]
      simp
    rw [List.length_append, List.length_singleton, dump, ih front_written]
    simp [last]

theorem Holds.dump (holds : s.Holds nesting) : s.dump s.depth = some nesting.reverse := by
  have copied := dump_prefix s nesting.reverse holds.words
  rwa [List.length_reverse, ← holds.depth] at copied

/-- Words that are copied into a block stand at its beginning, and the block keeps its size. -/
theorem load_prefix (s : Store) (record : List Nat) (n : Nat) (there : n ≤ record.length) (room : n ≤ s.words.length) :
    ∃ after, s.load record n = some after ∧ (record.take n).map some <+: after.words ∧
      after.words.length = s.words.length := by
  induction n with
  | zero => exact ⟨s, rfl, by simp, rfl⟩
  | succ n ih =>
    obtain ⟨front, loaded, ⟨spare, split⟩, same⟩ := ih (by omega) (by omega)
    have here : n < record.length := by omega
    have within : n < front.words.length := by omega
    have start : ((record.take n).map some).length = n := by simp; omega
    refine ⟨{ front with words := front.words.set n (some record[n]) }, ?_, ?_, ?_⟩
    · simp [load, loaded, List.getElem?_eq_getElem here, write, within]
    · -- The next word stands right behind those that were copied before.
      cases spare with
      | nil =>
        rw [List.append_nil] at split
        rw [← split, start] at within
        omega
      | cons word others =>
        refine ⟨others, ?_⟩
        dsimp only
        rw [← split, List.set_append_right _ _ (by omega), start, List.take_add_one, List.getElem?_eq_getElem here,
          List.map_append, List.append_assoc]
        simp only [Nat.sub_self, List.set_cons_zero]
        rfl
    · simp [same]

/-- A block takes over the words of any record that has enough of them, whatever it held before. -/
theorem restore_holds (s : Store) (record : List Nat) (count : Nat) (there : count ≤ record.length) :
    ∃ after, s.restore record count = some after ∧ after.Holds (record.take count).reverse := by
  unfold restore
  -- Without words nothing is copied, and the block keeps its size.
  by_cases none : count = 0
  · rw [if_pos none]
    subst none
    exact ⟨_, rfl, rfl, by simp⟩
  · rw [if_neg none]
    have room : count ≤ (s.resize count).words.length := by
      simp [resize]
      omega
    obtain ⟨after, loaded, words, _⟩ := load_prefix (s.resize count) record count there room
    refine ⟨{ after with depth := count }, by simp [loaded], ?_, ?_⟩
    · simp [there]
    · rwa [List.reverse_reverse]

end Store

namespace Context

theorem scanAny_nests (c : Context) (text : List CodePoint) :
    Token.Nests c.nesting (c.scanAny text).context.nesting (c.scanAny text).token := by
  obtain ⟨gap, rest, s, _, _, outcome, scanned⟩ := scanAny_outcome c text
  rw [scanned]
  cases outcome with
  | read reads =>
    obtain ⟨t, token⟩ := reads.token
    have counted := reads_nesting reads token
    have same : (s.behind gap.length).token = some t := token
    rw [same]
    exact counted
  | stay => rfl
  | finish => rfl
  | leave => rfl

theorem accept_nesting (accepts : Token → Bool) (s : Scan) : (s.accept accepts).context.nesting = s.context.nesting := by
  unfold Scan.accept
  split
  · split_ifs <;> rfl
  · rfl

/-- Around a whole scan the nesting changes by the token that the scan comes upon, also if it is not accepted. -/
theorem scan_nests (accepts : Token → Bool) (c : Context) (text : List CodePoint) :
    Token.Nests c.nesting (c.scan accepts text).context.nesting (c.meets accepts text) := by
  unfold scan meets
  dsimp only
  split_ifs
  · cases semicolon : (c.start accepts).scanSemicolon (text.dropWhile CodePoint.isBlank) with
    | none =>
      dsimp only [Scan.behind]
      rw [accept_nesting, ← start_nesting c accepts]
      exact scanAny_nests _ _
    | some outcome =>
      rcases scanSemicolon_cases _ _ outcome semicolon with ⟨_, _, rfl⟩ | ⟨_, _, rfl⟩ | rfl
      all_goals exact start_nesting c accepts
  · rw [accept_nesting, ← start_nesting c accepts]
    exact scanAny_nests _ _

end Context

namespace Scanner

variable (s : Scanner) (accepts : Token → Bool) (text : List CodePoint)

/-- A scan of a scanner has the outcome that it has in the scanner's context, and leaves what it leaves there. -/
theorem scan_written (written : s.store.Written) :
    ∃ next, s.scan accepts text = some (s.context.scan accepts text, next) ∧ next.store.Written ∧
      next.context = (s.context.scan accepts text).context := by
  obtain ⟨store, taken, holds⟩ := written.holds.take (Context.scan_nests accepts s.context text)
  refine ⟨_, by rw [scan, taken]; rfl, holds.written, ?_⟩
  rw [context, holds.nesting_eq]

theorem save_written (written : s.store.Written) : s.save = some s.context.save := by
  have depth : s.store.depth = s.context.nesting.length := written.holds.depth
  unfold save Context.save
  rw [← depth]
  split_ifs
  · rw [written.holds.dump]
    rfl
  · rfl

theorem restore_written (record : Snapshot) (length : Nat) (fits : record.fits length = true)
    (there : record.count.toNat ≤ record.words.length) :
    ∃ next, s.restore record length = some next ∧ next.store.Written ∧
      next.context = s.context.restore record length := by
  obtain ⟨store, restored, holds⟩ := s.store.restore_holds record.words record.count.toNat there
  refine ⟨⟨record.mode, record.block, record.semicolon, store⟩, ?_, holds.written, ?_⟩
  · rw [restore, if_pos fits, restored]
    rfl
  · rw [Context.restore, if_pos fits, context, holds.nesting_eq]

end Scanner
end Ucode.Template

import Mathlib.Tactic.SplitIfs
import Ucode.Proofs.Template.Coherence
import Ucode.Proofs.Template.Literals

/-!
# Where text stops

Text runs up to the first place at which a tag opens, and to the end if none does. The scan of the text reads the opening mark
along but leaves it to the next scan, which finds it at that place, with the trim mark behind it if there is one.
-/
namespace Ucode.Template

namespace Markup

/-- The kinds of tags, each with the character that follows the brace in its opening mark. -/
def tagKinds : List (Mode × CodePoint) :=
  [(.comment, Char.toNat '#'), (.expressionTag, Char.toNat '{'), (.statementTag, Char.toNat '%')]

/-- A tag of a kind opens at a place of a text. -/
def OpensAt (text : List CodePoint) (place : Nat) (tag : Mode) : Prop :=
  ∃ kind, (tag, kind) ∈ tagKinds ∧ text[place]? = some (Char.toNat '{') ∧ text[place + 1]? = some kind

/-- From a place on text stops first at another place: no tag opens between them, and there either one does or the text
ends. -/
structure StopsFirst (text : List CodePoint) (place stop : Nat) (tag : Option Mode) : Prop where
  behind : place ≤ stop
  within : stop ≤ text.length
  first : ∀ i, place ≤ i → i < stop → ∀ kind, ¬OpensAt text i kind
  opens : ∀ kind ∈ tag, OpensAt text stop kind
  ends : tag = none → stop = text.length

variable {c : CodePoint} {text rest : List CodePoint} {place stop : Nat} {tag : Option Mode} {kind : Mode}

/-- The length of an opening mark together with the sign that may stand behind it. -/
def openingLength (signs : List Char) (next : Option CodePoint) : Nat :=
  if next ∈ signs.map (fun m => some (Char.toNat m)) then 3 else 2

theorem OpensAt.drop {text : List CodePoint} {place : Nat} {tag : Mode} (opens : OpensAt text place tag) :
    ∃ kind, (tag, kind) ∈ tagKinds ∧ text.drop place = Char.toNat '{' :: kind :: text.drop (place + 2) := by
  obtain ⟨kind, member, brace, second⟩ := opens
  refine ⟨kind, member, ?_⟩
  obtain ⟨less, brace⟩ := List.getElem?_eq_some_iff.mp brace
  obtain ⟨below, second⟩ := List.getElem?_eq_some_iff.mp second
  rw [List.drop_eq_getElem_cons less, brace, List.drop_eq_getElem_cons below, second]

theorem opensAt_cons_succ : OpensAt (c :: rest) (place + 1) kind ↔ OpensAt rest place kind := by
  simp only [OpensAt, List.getElem?_cons_succ]

theorem opener?_eq_some_iff : opener? text = some kind ↔ OpensAt text 0 kind := by
  constructor
  · intro found
    unfold opener? at found
    split at found
    · next brace mark rest =>
      split_ifs at found with opens comment expression statement
      all_goals
        cases found
        refine ⟨mark, ?_, congrArg some opens, rfl⟩
        simp [tagKinds, *]
    · cases found
  · rintro ⟨mark, member, brace, second⟩
    -- A tag opens with a brace and the character of its kind.
    obtain ⟨rest, rfl⟩ : ∃ rest, text = Char.toNat '{' :: mark :: rest := by
      match text, brace, second with
      | _ :: _ :: rest, rfl, rfl => exact ⟨rest, rfl⟩
    simp only [tagKinds, List.mem_cons, List.not_mem_nil, or_false, Prod.mk.injEq] at member
    rcases member with ⟨rfl, rfl⟩ | ⟨rfl, rfl⟩ | ⟨rfl, rfl⟩ <;> rfl

theorem StopsFirst.cons (unopened : ∀ kind, ¬OpensAt (c :: rest) 0 kind) (stops : StopsFirst rest 0 stop tag) :
    StopsFirst (c :: rest) 0 (stop + 1) tag := by
  refine ⟨Nat.zero_le _, Nat.succ_le_succ stops.within, fun i _ less kind => ?_, fun kind found => ?_, fun none => ?_⟩
  · cases i with
    | zero => exact unopened kind
    | succ i => exact mt opensAt_cons_succ.mp (stops.first i (Nat.zero_le i) (Nat.lt_of_succ_lt_succ less) kind)
  · exact opensAt_cons_succ.mpr (stops.opens kind found)
  · rw [stops.ends none, List.length_cons]

theorem rawText_stopsFirst (plain : ∀ x ∈ text, x ≠ CodePoint.nul) : StopsFirst text 0 (rawText text).1 (rawText text).2 := by
  fun_induction rawText text with
  | case1 => exact ⟨Nat.le_refl 0, Nat.le_refl 0, fun i _ less => absurd less (Nat.not_lt_zero i), by simp, fun _ => rfl⟩
  | case2 => exact absurd rfl (plain _ (List.mem_cons_self ..))
  | case3 c rest _ mode opens =>
    refine ⟨Nat.le_refl 0, Nat.zero_le _, fun i _ less => absurd less (Nat.not_lt_zero i), fun kind found => ?_, by simp⟩
    cases found
    exact opener?_eq_some_iff.mp opens
  | case4 c rest _ none n tag read ih =>
    have inner := ih fun x member => plain x (List.mem_cons_of_mem c member)
    rw [read] at inner
    refine inner.cons fun kind opens => ?_
    rw [opener?_eq_some_iff.mpr opens] at none
    cases none

theorem StopsFirst.of_drop (inside : place ≤ text.length) (stops : StopsFirst (text.drop place) 0 stop tag) :
    StopsFirst text place (place + stop) tag := by
  have shift (i : Nat) (kind : Mode) : OpensAt (text.drop place) i kind ↔ OpensAt text (place + i) kind := by
    simp only [OpensAt, List.getElem?_drop, Nat.add_assoc]
  have within := stops.within
  rw [List.length_drop] at within
  refine ⟨Nat.le_add_right _ _, by omega, fun i later less kind => ?_, fun kind found => ?_, fun none => ?_⟩
  · obtain ⟨k, rfl⟩ := Nat.exists_eq_add_of_le later
    exact mt (shift k kind).mpr (stops.first k (Nat.zero_le k) (by omega) kind)
  · exact (shift stop kind).mp (stops.opens kind found)
  · rw [stops.ends none, List.length_drop]
    omega

end Markup

/-- For a single byte, the sign that is read is the one that stands there. -/
theorem Numeral.tryOne_sign {rest : List CodePoint} (byte : ∀ x ∈ rest.head?, 0 < x ∧ x < 256) (members : List Char) :
    rest.length - (tryOne members rest).2.length =
      if rest.head? ∈ members.map (fun m => some (Char.toNat m)) then 1 else 0 := by
  cases rest with
  | nil => simp [tryOne]
  | cons x others =>
    have sign : CodePoint.isAmong members x = true ↔ CodePoint.IsOneOf members x := CodePoint.isAmong_iff (byte x rfl)
    have stands : some x ∈ members.map (fun m => some (Char.toNat m)) ↔ CodePoint.IsOneOf members x := by
      simp [CodePoint.IsOneOf, eq_comm]
    have proper : x ≠ CodePoint.nul := Nat.ne_of_gt (byte x rfl).1
    rw [List.head?_cons, tryOne]
    by_cases signed : CodePoint.IsOneOf members x
    · rw [if_pos (stands.mpr signed), if_pos (sign.mpr signed)]
      simp
    · rw [if_neg (mt stands.mp signed), if_neg (mt sign.mp signed), if_neg proper]
      simp

namespace Context

open Markup

variable {accepts : Token → Bool} {c : Context} {text : List CodePoint} {place : Nat}

/-- The context behind text that stops before a tag, or at the end. -/
def behindText (c : Context) (tag : Option Mode) : Context :=
  ⟨tag.getD .finished, if tag = some .comment then .comment else .none, false, c.nesting⟩

/-- Outside of all tags a scan finds the text up to the place where it stops. -/
theorem scan_outside (mode : c.mode = .text) (block : c.block = .none) (accepted : accepts .rawText = true)
    (text : List CodePoint) :
    let s := c.scan accepts text
    s.token = some .rawText ∧ s.start = 0 ∧ s.stop = (rawText text).1 ∧ s.context = c.behindText (rawText text).2 := by
  have begun : c.mode ≠ .initial := by simp [mode]
  have unasked : ¬(c.block = .statements ∧ accepts .semicolon = true) := by simp [block]
  rw [scan_eq_scanAny begun unasked, scanAny, mode]
  dsimp only
  -- The three ways in which text ends: with the text itself, before a comment, and before a tag with code.
  unfold scanText
  split
  · next raw => simp [raw, Scan.accept, Scan.found, accepted, behindText, block]
  · next raw => simp [raw, Scan.accept, accepted, behindText]
  · next n tag other raw =>
    have kind : tag ≠ .comment := other
    simp [raw, Scan.accept, accepted, behindText, block, kind]

theorem exists_outside (reached : c.Reachable) (outside : c.mode = .text ∨ c = fresh) (accepted : accepts .rawText = true)
    (text : List CodePoint) : ∃ d : Context, d.mode = .text ∧ d.block = .none ∧ d.nesting = c.nesting ∧
      c.scan accepts text = d.scan accepts text := by
  rcases outside with mode | rfl
  · have started : c.Started := by
      rcases reached.coherent with rfl | started
      · cases mode
      · exact started
    exact ⟨c, mode, started.outside mode, rfl, rfl⟩
  · have begun : fresh.start accepts = { fresh with mode := .text } := by
      simp [start, fresh, accepted]
    refine ⟨{ fresh with mode := .text }, rfl, rfl, rfl, ?_⟩
    rw [scan, scan, begun]
    rfl

theorem scan_expressionOpen (rest : List CodePoint) (mode : c.mode = .expressionTag) (block : c.block = .none)
    (accepted : accepts .expressionOpen = true) :
    c.scan accepts (Char.toNat '{' :: Char.toNat '{' :: rest) = .found ⟨.code, .expression, false, c.nesting⟩ .expressionOpen
      (if rest.head? = some (Char.toNat '-') then 3 else 2) := by
  rw [scan_eq_scanAny (by simp [mode]) (by simp [block]), scanAny, mode]
  simp [scanExpressionTag, Scan.accept, Scan.found, accepted, openTag]

theorem scan_statementOpen (rest : List CodePoint) (mode : c.mode = .statementTag) (block : c.block = .none)
    (accepted : accepts .statementOpen = true) :
    c.scan accepts (Char.toNat '{' :: Char.toNat '%' :: rest) = .found ⟨.code, .statements, false, c.nesting⟩ .statementOpen
      (2 + (rest.length - (Numeral.tryOne ['+', '-'] rest).2.length)) := by
  rw [scan_eq_scanAny (by simp [mode]) (by simp [block]), scanAny, mode]
  simp [scanStatementTag, Scan.accept, Scan.found, accepted, openTag]

/-- Outside of all tags a scan finds the text up to the first place at which a tag opens, or else up to the end, and the scan
there finds the opening mark with its sign. -/
theorem scan_stopsFirst (reached : c.Reachable) (outside : c.mode = .text ∨ c = fresh)
    (plain : ∀ x ∈ text, x ≠ CodePoint.nul) (inside : place ≤ text.length) (accepted : accepts .rawText = true) :
    ∃ stop tag, StopsFirst text place stop tag ∧
      (let s := c.scan accepts (text.drop place)
       s.token = some .rawText ∧ s.start = 0 ∧ place + s.stop = stop ∧ s.context = c.behindText tag) ∧
      (tag = some .expressionTag → ∀ next : Token → Bool, next .expressionOpen = true →
        (c.behindText tag).scan next (text.drop stop) = .found ⟨.code, .expression, false, c.nesting⟩ .expressionOpen
          (openingLength ['-'] text[stop + 2]?)) ∧
      (tag = some .statementTag → ∀ next : Token → Bool, next .statementOpen = true → ∃ length,
        (c.behindText tag).scan next (text.drop stop) = .found ⟨.code, .statements, false, c.nesting⟩ .statementOpen length ∧
          ((∀ x ∈ text[stop + 2]?, x < 256) → length = openingLength ['+', '-'] text[stop + 2]?)) := by
  obtain ⟨d, mode, block, nesting, same⟩ := exists_outside reached outside accepted (text.drop place)
  have stops : StopsFirst text place (place + (rawText (text.drop place)).1) (rawText (text.drop place)).2 :=
    (rawText_stopsFirst fun x member => plain x (List.mem_of_mem_drop member)).of_drop inside
  obtain ⟨token, start, stop, context⟩ := scan_outside mode block accepted (text.drop place)
  refine ⟨_, _, stops, ⟨?_, ?_, ?_, ?_⟩, fun expression next accepted => ?_, fun statement next accepted => ?_⟩
  · rw [same, token]
  · rw [same, start]
  · rw [same, stop]
  · rw [same, context, behindText, behindText, nesting]
  · obtain ⟨kind, member, opening⟩ := (stops.opens _ expression).drop
    obtain rfl : kind = Char.toNat '{' := by simpa [tagKinds] using member
    rw [opening, scan_expressionOpen _ (by simp [behindText, expression]) (by simp [behindText, expression]) accepted]
    simp [behindText, openingLength]
  · obtain ⟨kind, member, opening⟩ := (stops.opens _ statement).drop
    obtain rfl : kind = Char.toNat '%' := by simpa [tagKinds] using member
    have found := scan_statementOpen (c := c.behindText (rawText (text.drop place)).2)
      (text.drop (place + (rawText (text.drop place)).1 + 2)) (by simp [behindText, statement])
      (by simp [behindText, statement]) accepted
    refine ⟨_, opening ▸ found, fun small => ?_⟩
    have byte : ∀ x ∈ (text.drop (place + (rawText (text.drop place)).1 + 2)).head?, 0 < x ∧ x < 256 := by
      intro x stands
      have member := List.mem_of_mem_drop (List.mem_of_mem_head? stands)
      exact ⟨Nat.pos_of_ne_zero (plain x member), small x (List.head?_drop .. ▸ stands)⟩
    rw [Numeral.tryOne_sign byte, openingLength, List.head?_drop]
    split_ifs <;> rfl

/-- A brace that opens nothing belongs to the text before a statement tag. -/
theorem scan_stopsFirst_statement :
    let text := ['a', '{', ' ', '{', '%', '+', 'b'].map Char.toNat
    StopsFirst text 1 3 (some .statementTag) ∧
      (fresh.behindText (some .statementTag)).scan (fun t => t = .statementOpen) (text.drop 3) =
        .found ⟨.code, .statements, false, []⟩ .statementOpen 3 := by
  intro text
  obtain ⟨stop, tag, stops, ⟨_, _, ends, context⟩, _, opened⟩ :=
    @scan_stopsFirst (fun t => t = .rawText) fresh text 1 .fresh (.inr rfl) (by decide) (by decide) rfl
  obtain rfl : 3 = stop := ends
  obtain rfl : tag = some .statementTag := by
    cases tag with
    | none => exact absurd context (by decide)
    | some kind => exact congrArg (fun d : Context => some d.mode) context.symm
  obtain ⟨length, found, spans⟩ := opened rfl (fun t => t = .statementOpen) rfl
  obtain rfl : length = 3 := spans (by decide)
  exact ⟨stops, found⟩

end Context
end Ucode.Template

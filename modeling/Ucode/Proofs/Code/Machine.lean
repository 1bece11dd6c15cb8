import Ucode.Code.Machine
import Ucode.Proofs.Template.Numerals

/-!
# What a machine accepts

`Machine.Accepts` is the judgement that arrows lead from a state through a word to a state that accepts. A run finds the
longest beginning of a text for which it holds (`run_longest`). As long as no two arrows of a state fit the same code
point, the words are those that lie along the paths of the table (`accepts_iff`), so the words of a finite table can be
listed, and only its loops need an argument of their own.
-/
namespace Ucode.Code

open Template (Longest)

/-- In the state neither blanks nor the end of the text are treated in a way of their own. -/
def State.isPlain (s : State) : Bool := !s.skips && s.atEnd.isNone

/-! ### Arrows -/

/-- No code point fits both of the labels. Of two classes this is never said. -/
def Label.apart : Label → Label → Bool
  | only a, l => !l.fits a.toNat
  | l, only a => !l.fits a.toNat
  | _, _ => false

theorem Label.not_fits_of_apart {l other : Label} {c : CodePoint} (apart : l.apart other = true) (fits : l.fits c = true) :
    other.fits c = false := by
  cases l with
  | only a =>
    obtain rfl : c = a.toNat := by simpa [Label.fits] using fits
    simpa [Label.apart] using apart
  | _ =>
    cases other with
    | only b =>
      rw [Label.fits, beq_eq_false_iff_ne]
      rintro rfl
      simp [Label.apart, fits] at apart
    | _ => cases apart

theorem State.next?_going_mark (d : Char) (q : Nat) (marks : List (Char × Nat)) (others : List (Label × Nat)) (c : CodePoint) :
    (State.going ((d, q) :: marks) others).next? c =
      if c = d.toNat then some q else (State.going marks others).next? c := by
  by_cases same : c = d.toNat <;> simp [State.next?, State.going, Label.fits, same]

theorem State.next?_going_other (l : Label) (q : Nat) (others : List (Label × Nat)) (c : CodePoint) :
    (State.going [] ((l, q) :: others)).next? c = if l.fits c then some q else (State.going [] others).next? c := by
  cases fits : l.fits c <;> simp [State.next?, State.going, fits]

/-- If the arrows are apart it does not matter which of them is looked at first. -/
theorem State.next?_eq_some_iff {s : State} {c : CodePoint} {t : Nat}
    (apart : s.arrows.Pairwise fun a b => a.1.apart b.1 = true) :
    s.next? c = some t ↔ ∃ l, (l, t) ∈ s.arrows ∧ l.fits c = true := by
  rw [State.next?]
  -- An arrow that fits leaves nothing for those behind it, and one that does not is passed over.
  generalize s.arrows = arrows at apart
  induction apart with
  | nil => simp
  | @cons a arrows first _ ih =>
    obtain ⟨l, q⟩ := a
    cases fits : l.fits c with
    | true =>
      have others {b : Label × Nat} (member : b ∈ arrows) : b.1.fits c = false := Label.not_fits_of_apart (first b member) fits
      simp only [List.find?_cons, fits, Option.map_some, Option.some.injEq, List.mem_cons, Prod.mk.injEq]
      constructor
      · rintro rfl
        exact ⟨l, Or.inl ⟨rfl, rfl⟩, fits⟩
      · rintro ⟨other, ⟨rfl, rfl⟩ | member, otherFits⟩
        · rfl
        · rw [others member] at otherFits
          cases otherFits
    | false =>
      simp only [List.find?_cons, fits, ih, List.mem_cons, Prod.mk.injEq]
      refine exists_congr fun other => and_congr_left fun otherFits => ?_
      rw [or_iff_right]
      rintro ⟨rfl, _⟩
      rw [fits] at otherFits
      cases otherFits

namespace Machine

variable {m : Machine} {q t : Nat} {s : Symbol} {c : CodePoint} {w text : List CodePoint} {p : Progress}

/-- From a state a word leads to a state that accepts. -/
inductive Accepts (m : Machine) : Nat → Symbol → List CodePoint → Prop where
  | here {q : Nat} {s : Symbol} (accepts : (m.state q).accepts = some s) : Accepts m q s []
  | step {q t : Nat} {s : Symbol} {c : CodePoint} {w : List CodePoint} (next : (m.state q).next? c = some t)
      (rest : Accepts m t s w) : Accepts m q s (c :: w)

/-- The words that are accepted from a state. -/
def Language (m : Machine) (q : Nat) (w : List CodePoint) : Prop := ∃ s, m.Accepts q s w

theorem accepts_nil : m.Accepts q s [] ↔ (m.state q).accepts = some s :=
  ⟨fun | .here accepts => accepts, .here⟩

theorem accepts_cons : m.Accepts q s (c :: w) ↔ ∃ t, (m.state q).next? c = some t ∧ m.Accepts t s w :=
  ⟨fun | .step next rest => ⟨_, next, rest⟩, fun ⟨_, next, rest⟩ => .step next rest⟩

theorem Accepts.unique {other : Symbol} (first : m.Accepts q s w) (second : m.Accepts q other w) : s = other := by
  induction first with
  | here accepts => exact Option.some.inj (accepts.symm.trans (accepts_nil.mp second))
  | step next _ ih =>
    obtain ⟨_, same, rest⟩ := accepts_cons.mp second
    cases next.symm.trans same
    exact ih rest

theorem longest_unique {words : List CodePoint → Prop} {v : List CodePoint} (first : Longest words text v)
    (second : Longest words text w) : v = w := by
  have length := Nat.le_antisymm (second.longest v first.stands first.fits) (first.longest w second.stands second.fits)
  exact (List.prefix_of_prefix_length_le first.stands second.stands (Nat.le_of_eq length)).eq_of_length length

theorem language_nil : m.Language q [] ↔ (m.state q).accepts ≠ none := by
  simp only [Language, accepts_nil, Option.ne_none_iff_exists']

/-! ### Runs -/

/-- Arrows lead to plain states only. -/
def Settles (m : Machine) : Prop := ∀ s ∈ m.states, ∀ a ∈ s.arrows, (m.state a.2).isPlain = true

instance : Decidable m.Settles := inferInstanceAs (Decidable (∀ s ∈ m.states, _))

theorem Settles.isPlain (settles : m.Settles) (next : (m.state q).next? c = some t) : (m.state t).isPlain = true := by
  obtain ⟨a, found, rfl⟩ := Option.map_eq_some_iff.mp next
  have member := List.mem_of_find?_eq_some found
  rw [state, Array.getD_eq_getD_getElem?] at member
  by_cases inside : q < m.states.size
  · rw [Array.getElem?_eq_getElem inside] at member
    exact settles _ (Array.getElem_mem inside) a member
  · rw [Array.getElem?_eq_none (Nat.not_lt.mp inside)] at member
    cases member

/-- The text is read without regard to blanks and its end: the state is plain, or the text goes on with something else. -/
def Ready (m : Machine) (q : Nat) (text : List CodePoint) : Prop :=
  (m.state q).isPlain = true ∨ ∃ c rest, text = c :: rest ∧ c.isBlank = false

/-- What a run says of a text: it finds the longest word, and goes on from what was found before if there is none. -/
def Finds (m : Machine) (q : Nat) (text : List CodePoint) (p after : Progress) : Prop :=
  (∃ s w, Longest (m.Language q) text w ∧ m.Accepts q s w ∧ after.found = some (s, p.place + w.length)) ∨
    (∀ w, w <+: text → ¬m.Language q w) ∧ after.found = p.found

theorem note_start (p : Progress) (accepts : Option Symbol) : (p.note accepts).start = p.start := by
  cases accepts <;> rfl

theorem note_place (p : Progress) (accepts : Option Symbol) : (p.note accepts).place = p.place := by
  cases accepts <;> rfl

theorem finds_here (stops : ∀ w, w <+: text → m.Language q w → w = []) : m.Finds q text p (p.note (m.state q).accepts) := by
  cases accepts : (m.state q).accepts with
  | none =>
    refine Or.inr ⟨fun w stands language => ?_, rfl⟩
    obtain rfl := stops w stands language
    exact language_nil.mp language accepts
  | some s =>
    refine Or.inl ⟨s, [], ⟨List.nil_prefix, ⟨s, .here accepts⟩, fun other stands language => ?_⟩, .here accepts, rfl⟩
    exact Nat.le_of_eq (congrArg List.length (stops other stands language))

/-- The words behind an arrow are those that begin with a code point that it fits. -/
theorem finds_step (next : (m.state q).next? c = some t) {after : Progress}
    (finds : m.Finds t text (p.note (m.state q).accepts).step after) : m.Finds q (c :: text) p after := by
  have language (w : List CodePoint) : m.Language q (c :: w) ↔ m.Language t w := by
    simp only [Language, accepts_cons, next, Option.some.injEq, exists_eq_left']
  have place : (p.note (m.state q).accepts).step.place = p.place + 1 := by rw [Progress.step, note_place]
  -- What is longest behind the arrow is longest with the arrow in front of it.
  rcases finds with ⟨s, w, ⟨stands, fits, longest⟩, accepts, found⟩ | ⟨none, found⟩
  · refine Or.inl ⟨s, c :: w, ⟨List.cons_prefix_cons.mpr ⟨rfl, stands⟩, (language w).mpr fits, ?_⟩, .step next accepts, ?_⟩
    · intro other front otherFits
      cases other with
      | nil => exact Nat.zero_le _
      | cons d other =>
        obtain ⟨rfl, behind⟩ := List.cons_prefix_cons.mp front
        exact Nat.succ_le_succ (longest other behind ((language other).mp otherFits))
    · rw [found, place, List.length_cons, Nat.add_right_comm, Nat.add_assoc]
  · -- Nothing is accepted behind the arrow, so what is found is found before it.
    have stops : ∀ w, w <+: c :: text → m.Language q w → w = [] := by
      intro w front fits
      cases w with
      | nil => rfl
      | cons d w =>
        obtain ⟨rfl, behind⟩ := List.cons_prefix_cons.mp front
        exact absurd ((language w).mp fits) (none w behind)
    have here := finds_here (p := p) stops
    unfold Finds at here ⊢
    rwa [found]

/-- A run finds the longest word that is accepted. -/
theorem run_longest (settles : m.Settles) (ready : m.Ready q text) :
    (m.run q p text).start = p.start ∧ m.Finds q text p (m.run q p text) := by
  -- On the text, from all states: the arrow that is taken leads to a plain state, which needs nothing of the text.
  induction text generalizing q p with
  | nil =>
    have plain : (m.state q).isPlain = true := ready.resolve_right (by simp)
    have last : (m.state q).atEnd = none := by simpa [State.isPlain] using (Bool.and_eq_true_iff.mp plain).2
    rw [run, last]
    exact ⟨note_start _ _, finds_here fun w stands _ => List.prefix_nil.mp stands⟩
  | cons c rest ih =>
    have unskipped : ((m.state q).skips && c.isBlank) = false := by
      rcases ready with plain | ⟨d, others, same, unblank⟩
      · simp_all [State.isPlain]
      · cases same
        rw [unblank, Bool.and_false]
    rw [run, unskipped]
    cases next : (m.state q).next? c with
    | none =>
      refine ⟨note_start _ _, finds_here fun w stands ⟨s, accepts⟩ => ?_⟩
      cases accepts with
      | here => rfl
      | step leads =>
        obtain ⟨rfl, _⟩ := List.cons_prefix_cons.mp stands
        rw [next] at leads
        cases leads
    | some t =>
      obtain ⟨start, finds⟩ := ih (q := t) (p := (p.note (m.state q).accepts).step) (Or.inl (settles.isPlain next))
      exact ⟨start.trans (note_start _ _), finds_step next finds⟩

/-! ### Readings -/

/-- A state to start from passes over blanks and accepts nothing yet. -/
structure IsStart (m : Machine) (q : Nat) : Prop where
  skips : (m.state q).skips = true
  accepts : (m.state q).accepts = none

/-- What is accepted at the end of the text. -/
def endSymbol (m : Machine) (q : Nat) : Option Symbol := (m.state q).atEnd.bind fun t => (m.state t).accepts

theorem run_blanks (start : m.IsStart q) (n : Nat) (text : List CodePoint) :
    m.run q ⟨n, n, none⟩ text =
      let blanks := (text.takeWhile CodePoint.isBlank).length
      m.run q ⟨n + blanks, n + blanks, none⟩ (text.dropWhile CodePoint.isBlank) := by
  induction text generalizing n with
  | nil => rfl
  | cons c text ih =>
    by_cases blank : c.isBlank = true
    · rw [List.takeWhile_cons_of_pos blank, List.dropWhile_cons_of_pos blank, run, start.skips, blank, start.accepts]
      simp only [Bool.and_self, if_true, Progress.note, Progress.skip, ih, List.length_cons]
      rw [Nat.add_right_comm, Nat.add_assoc]
    · rw [List.takeWhile_cons_of_neg blank, List.dropWhile_cons_of_neg blank]
      rfl

/-- A run from the start goes over the blanks, and then finds the longest word, or the end of the text. -/
theorem run_start (settles : m.Settles) (start : m.IsStart q) (text : List CodePoint) :
    let blanks := (text.takeWhile CodePoint.isBlank).length
    let rest := text.dropWhile CodePoint.isBlank
    let after := m.run q Progress.none text
    after.start = blanks ∧ (rest = [] ∧ after.found = (m.endSymbol q).map ((·, blanks)) ∨
      rest ≠ [] ∧ m.Finds q rest ⟨blanks, blanks, none⟩ after) := by
  intro blanks rest after
  have behind : after = m.run q ⟨blanks, blanks, none⟩ rest := by
    have passed := run_blanks start 0 text
    simp only [Nat.zero_add] at passed
    exact passed
  rw [behind]
  -- Only at a start does it matter whether the text has ended, since only there the end can be accepted.
  cases left : rest with
  | nil =>
    rw [run, start.accepts, endSymbol]
    cases (m.state q).atEnd with
    | none => exact ⟨rfl, Or.inl ⟨rfl, rfl⟩⟩
    | some t =>
      refine ⟨note_start _ _, Or.inl ⟨rfl, ?_⟩⟩
      dsimp only [Option.bind_some]
      cases (m.state t).accepts <;> rfl
  | cons c others =>
    have unblank : c.isBlank = false := by
      have stop := List.head?_dropWhile_not CodePoint.isBlank text
      rw [show text.dropWhile CodePoint.isBlank = c :: others from left] at stop
      simpa using stop
    obtain ⟨same, finds⟩ := run_longest (p := ⟨blanks, blanks, none⟩) settles (Or.inr ⟨c, others, rfl, unblank⟩)
    exact ⟨same, Or.inr ⟨List.cons_ne_nil _ _, finds⟩⟩

theorem reading?_eq_some_iff (p : Progress) (r : Reading) :
    p.reading? = some r ↔ p.found = some (r.symbol, r.stop) ∧ p.start = r.start := by
  obtain ⟨symbol, start, stop⟩ := r
  constructor
  · intro read
    obtain ⟨found, same, read⟩ := Option.map_eq_some_iff.mp read
    cases read
    exact ⟨same, rfl⟩
  · rintro ⟨found, rfl⟩
    rw [Progress.reading?, found]
    rfl

theorem reading_iff (settles : m.Settles) (start : m.IsStart q) (text : List CodePoint) (r : Reading) :
    let rest := text.dropWhile CodePoint.isBlank
    (m.run q Progress.none text).reading? = some r ↔ r.start = (text.takeWhile CodePoint.isBlank).length ∧
      (rest = [] ∧ m.endSymbol q = some r.symbol ∧ r.stop = r.start ∨
        ∃ w, Longest (m.Language q) rest w ∧ m.Accepts q r.symbol w ∧ r.stop = r.start + w.length) := by
  intro rest
  obtain ⟨begun, ⟨left, found⟩ | ⟨left, finds⟩⟩ := run_start settles start text
  -- At the end of the text no word stands, so only the end can be read.
  · have none (w : List CodePoint) : ¬Longest (m.Language q) rest w := by
      rintro ⟨stands, fits, _⟩
      rw [show rest = [] from left, List.prefix_nil] at stands
      subst stands
      exact language_nil.mp fits start.accepts
    rw [reading?_eq_some_iff, begun, found, Option.map_eq_some_iff]
    constructor
    · rintro ⟨⟨s, ends, same⟩, begins⟩
      obtain ⟨rfl, stop⟩ := Prod.mk.inj same
      exact ⟨begins.symm, Or.inl ⟨left, ends, stop.symm.trans begins⟩⟩
    · rintro ⟨begins, ⟨_, ends, stop⟩ | ⟨w, longest, _⟩⟩
      · exact ⟨⟨r.symbol, ends, by rw [stop, begins]⟩, begins.symm⟩
      · exact absurd longest (none w)
  -- Otherwise what is read is the longest word, of which there is one.
  · rw [reading?_eq_some_iff, begun]
    rcases finds with ⟨s, w, longest, accepts, found⟩ | ⟨none, found⟩
    · rw [found]
      constructor
      · rintro ⟨same, begins⟩
        obtain ⟨rfl, stop⟩ := Prod.mk.inj (Option.some.inj same)
        exact ⟨begins.symm, Or.inr ⟨w, longest, accepts, by rw [← stop, ← begins]⟩⟩
      · rintro ⟨begins, ⟨empty, _⟩ | ⟨other, otherLongest, otherAccepts, stop⟩⟩
        · exact absurd empty left
        · obtain rfl := longest_unique longest otherLongest
          rw [accepts.unique otherAccepts, stop, begins]
          exact ⟨rfl, rfl⟩
    · rw [found]
      constructor
      · rintro ⟨same, _⟩
        cases same
      · rintro ⟨_, ⟨empty, _⟩ | ⟨w, longest, _⟩⟩
        · exact absurd empty left
        · exact absurd longest.fits (none w longest.stands)

theorem reading_eq_none_iff (settles : m.Settles) (start : m.IsStart q) (text : List CodePoint) :
    let rest := text.dropWhile CodePoint.isBlank
    (m.run q Progress.none text).reading? = none ↔
      (∀ w, w <+: rest → ¬m.Language q w) ∧ (rest = [] → m.endSymbol q = none) := by
  intro rest
  rw [Progress.reading?, Option.map_eq_none_iff]
  obtain ⟨_, ⟨left, found⟩ | ⟨left, finds⟩⟩ := run_start settles start text
  · rw [found, Option.map_eq_none_iff]
    refine ⟨fun ends => ⟨fun w stands fits => ?_, fun _ => ends⟩, fun both => both.2 left⟩
    rw [show rest = [] from left, List.prefix_nil] at stands
    subst stands
    exact language_nil.mp fits start.accepts
  · rcases finds with ⟨s, w, longest, _, found⟩ | ⟨none, found⟩
    · rw [found]
      exact ⟨nofun, fun both => absurd longest.fits (both.1 w longest.stands)⟩
    · exact ⟨fun _ => ⟨none, fun empty => absurd empty left⟩, fun _ => found⟩

/-! ### Paths -/

/-- Where a path ends: where a symbol is accepted, or in a state that it does not go beyond. -/
inductive Goal where
  | symbol (s : Symbol)
  | state (q : Nat)
  deriving DecidableEq

/-- The paths from a state. They go no further than to the given stops. -/
def paths (m : Machine) (stops : List Nat) : Nat → Nat → List (List Label × Goal)
  | 0, _ => []
  | fuel + 1, q =>
    if q ∈ stops then [([], .state q)]
    else (m.state q).accepts.toList.map (fun s => ([], .symbol s)) ++
      (m.state q).arrows.flatMap fun a => (m.paths stops fuel a.2).map fun path => (a.1 :: path.1, path.2)

/-- Whether all paths have come to their ends, with arrows on them that are apart from each other. -/
def covers (m : Machine) (stops : List Nat) : Nat → Nat → Bool
  | 0, _ => false
  | fuel + 1, q =>
    decide (q ∈ stops) || decide ((m.state q).arrows.Pairwise fun a b => a.1.apart b.1 = true) &&
      (m.state q).arrows.all fun a => m.covers stops fuel a.2

/-- A word along a path, with what is accepted behind its end. -/
inductive Along (m : Machine) : List Label × Goal → Symbol → List CodePoint → Prop where
  | symbol (s : Symbol) : Along m ([], .symbol s) s []
  | state {q : Nat} {s : Symbol} {w : List CodePoint} (rest : m.Accepts q s w) : Along m ([], .state q) s w
  | step {l : Label} {labels : List Label} {goal : Goal} {s : Symbol} {c : CodePoint} {w : List CodePoint}
      (fits : l.fits c = true) (rest : Along m (labels, goal) s w) : Along m (l :: labels, goal) s (c :: w)

variable {goal : Goal} {labels : List Label} {l : Label}

theorem along_symbol : m.Along ([], .symbol t) s w ↔ t = s ∧ w = [] := by
  constructor
  · rintro ⟨⟩
    exact ⟨rfl, rfl⟩
  · rintro ⟨rfl, rfl⟩
    exact .symbol t

theorem along_state : m.Along ([], .state q) s w ↔ m.Accepts q s w := ⟨fun | .state rest => rest, .state⟩

theorem along_cons : m.Along (l :: labels, goal) s w ↔ ∃ c v, w = c :: v ∧ l.fits c = true ∧ m.Along (labels, goal) s v := by
  constructor
  · rintro (_ | _ | ⟨fits, rest⟩)
    exact ⟨_, _, rfl, fits, rest⟩
  · rintro ⟨c, v, rfl, fits, rest⟩
    exact .step fits rest

theorem along_only {characters : List Char} :
    m.Along (characters.map .only, goal) s w ↔ ∃ v, w = characters.map Char.toNat ++ v ∧ m.Along ([], goal) s v := by
  induction characters generalizing w with
  | nil => simp
  | cons d characters ih =>
    rw [List.map_cons, along_cons]
    constructor
    · rintro ⟨c, _, rfl, fits, rest⟩
      obtain ⟨v, rfl, behind⟩ := ih.mp rest
      obtain rfl := eq_of_beq fits
      exact ⟨v, rfl, behind⟩
    · rintro ⟨v, rfl, rest⟩
      exact ⟨_, _, rfl, beq_self_eq_true _, ih.mpr ⟨v, rfl, rest⟩⟩

/-- If the arrows are apart, what is accepted from a state is what lies along the paths from there. -/
theorem accepts_iff {stops : List Nat} {fuel : Nat} (covers : m.covers stops fuel q = true) :
    m.Accepts q s w ↔ ∃ path ∈ m.paths stops fuel q, m.Along path s w := by
  -- On the fuel, which stands for the length of the paths that are looked at; `covers` says that it is enough.
  induction fuel generalizing q w with
  | zero => cases covers
  | succ fuel ih =>
    rw [Machine.covers, Bool.or_eq_true, Bool.and_eq_true, decide_eq_true_eq, decide_eq_true_eq, List.all_eq_true] at covers
    rw [Machine.paths]
    split_ifs with stop
    -- At a stop the path ends, whatever is accepted from there.
    · simp only [List.mem_singleton, exists_eq_left]
      exact ⟨.state, fun | .state rest => rest⟩
    · obtain ⟨apart, arrows⟩ := covers.resolve_left stop
      constructor
      · rintro (accepts | ⟨next, rest⟩)
        · exact ⟨([], .symbol s), by simp [accepts], .symbol s⟩
        · obtain ⟨l, arrow, fits⟩ := (State.next?_eq_some_iff apart).mp next
          obtain ⟨path, member, along⟩ := (ih (arrows _ arrow)).mp rest
          refine ⟨(l :: path.1, path.2), List.mem_append_right _ ?_, .step fits along⟩
          exact List.mem_flatMap.mpr ⟨_, arrow, List.mem_map.mpr ⟨path, member, rfl⟩⟩
      · rintro ⟨path, member, along⟩
        rcases List.mem_append.mp member with ends | goes
        · obtain ⟨accepted, accepts, rfl⟩ := List.mem_map.mp ends
          cases along
          exact .here (Option.mem_toList.mp accepts)
        · obtain ⟨⟨l, t⟩, arrow, goes⟩ := List.mem_flatMap.mp goes
          obtain ⟨path, behind, rfl⟩ := List.mem_map.mp goes
          cases along with
          | step fits rest =>
            exact .step ((State.next?_eq_some_iff apart).mpr ⟨l, arrow, fits⟩) ((ih (arrows _ arrow)).mpr ⟨path, behind, rest⟩)

/-- What one pass over the table says of a state to start from: what the end of the text is there, and which paths there
are. -/
structure Certified (m : Machine) (q : Nat) (last : Option Symbol) (stops : List Nat) (fuel : Nat)
    (paths : List (List Label × Goal)) : Prop extends m.IsStart q where
  last : m.endSymbol q = last
  covers : m.covers stops fuel q = true
  perm : (m.paths stops fuel q).Perm paths

instance (last : Option Symbol) (stops : List Nat) (fuel : Nat) (paths : List (List Label × Goal)) :
    Decidable (m.Certified q last stops fuel paths) :=
  decidable_of_iff ((m.state q).skips = true ∧ (m.state q).accepts = none ∧ m.endSymbol q = last ∧
    m.covers stops fuel q = true ∧ (m.paths stops fuel q).Perm paths)
    ⟨fun ⟨skips, accepts, last, covers, perm⟩ => ⟨⟨skips, accepts⟩, last, covers, perm⟩,
      fun certified => ⟨certified.skips, certified.accepts, certified.last, certified.covers, certified.perm⟩⟩

theorem Certified.accepts_iff {last : Option Symbol} {stops : List Nat} {fuel : Nat} {paths : List (List Label × Goal)}
    (certified : m.Certified q last stops fuel paths) : m.Accepts q s w ↔ ∃ path ∈ paths, m.Along path s w := by
  simp only [Machine.accepts_iff certified.covers, certified.perm.mem_iff]

theorem accepts_end {last : Symbol} (state : m.state q = .ending last) : m.Accepts q s w ↔ last = s ∧ w = [] := by
  cases w with
  | nil => simp [accepts_nil, state, State.ending]
  | cons c w => simp [accepts_cons, state, State.next?, State.ending, State.going]

/-- A state with one arrow, which leads back to it, accepts what consists of code points that the arrow fits. -/
theorem accepts_loop {loop : Symbol} (state : m.state q = .ending loop [] [(l, q)]) :
    m.Accepts q s w ↔ loop = s ∧ ∀ c ∈ w, l.fits c = true := by
  induction w with
  | nil => simp [accepts_nil, state, State.ending]
  | cons c w ih =>
    have next : (m.state q).next? c = if l.fits c then some q else none := by
      rw [state]
      exact State.next?_going_other l q [] c
    rw [accepts_cons, next, List.forall_mem_cons, and_left_comm, ← ih]
    cases l.fits c <;> simp

end Machine
end Ucode.Code

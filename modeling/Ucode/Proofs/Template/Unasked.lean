import Mathlib.Data.List.DropRight
import Ucode.Proofs.Template.Semicolons

/-!
# Scans that are not asked for semicolons

Among statements a scan that is asked for semicolons passes over blanks before it does anything else. Where no semicolon can stand
this shows in two places only: a placeholder is opened behind blanks, and the rest of a template literal starts behind the blanks
that it begins with, though they are part of it.
-/
namespace Ucode.Template

/-- The same tokens without the semicolon. -/
def Token.unasked (accepts : Token → Bool) : Token → Bool := fun t => accepts t && t != .semicolon

namespace Literal

theorem endFrom_blank {x : CodePoint} (blank : CodePoint.isBlank x = true) (rest : List CodePoint) :
    endFrom templateMark 0 (x :: rest) = (endFrom templateMark 0 rest).map End.succ := by
  have apart : x ≠ CodePoint.nul ∧ x ≠ '$' ∧ x ≠ '\\' ∧ x ≠ templateMark := by
    refine ⟨?_, ?_, ?_, ?_⟩ <;> rintro rfl <;> exact absurd blank (by decide)
  obtain ⟨nul, dollar, escape, mark⟩ := apart
  have regex : templateMark ≠ regexMark := by decide
  rw [endFrom, if_neg nul, if_neg fun h => dollar h.2, if_neg fun h => regex h.1, if_neg escape, if_neg mark]

/-- Blanks before a template literal move its end. -/
theorem end?_blanks {gap : List CodePoint} (blank : ∀ x ∈ gap, CodePoint.isBlank x = true) (rest : List CodePoint) :
    Literal.end? templateMark (gap ++ rest) = (Literal.end? templateMark rest).map fun e =>
      ⟨e.stop + gap.length, e.read + gap.length, e.placeholder⟩ := by
  induction gap with
  | nil => simp
  | cons x gap ih =>
    obtain ⟨first, others⟩ := List.forall_mem_cons.mp blank
    rw [List.cons_append, end?, endFrom_blank first, ← end?, ih others, Option.map_map]
    rfl

end Literal

namespace Scan

/-- Outcomes that nobody who calls the scanner can tell apart: the same scanner is left, and either both find nothing or both
find the same token at the same place. -/
def Same (s o : Scan) : Prop :=
  o.context = s.context ∧ o.token = s.token ∧
    (s.token ≠ none → o.start = s.start ∧ o.stop = s.stop ∧ o.read = s.read)

/-- The same up to the place where the token starts. -/
def SameEnd (s o : Scan) : Prop :=
  o.context = s.context ∧ o.token = s.token ∧ (s.token ≠ none → o.stop = s.stop ∧ o.read = s.read)

theorem Same.refl (s : Scan) : s.Same s := ⟨rfl, rfl, fun _ => ⟨rfl, rfl, rfl⟩⟩

theorem Same.sameEnd {s o : Scan} (same : s.Same o) : s.SameEnd o :=
  ⟨same.1, same.2.1, fun found => (same.2.2 found).2⟩

theorem accept_behind (accepts : Token → Bool) (s : Scan) (blanks : Nat) :
    ((s.accept accepts).behind blanks).Same ((s.behind blanks).accept accepts) := by
  cases token : s.token with
  | none => simp [Same, accept, behind, token]
  | some t => by_cases accepted : accepts t = true <;> simp [Same, accept, behind, nothing, token, accepted]

/-- Whether semicolons are accepted makes no difference to any other token. -/
theorem accept_unasked {accepts : Token → Bool} {s : Scan} (other : s.token ≠ some .semicolon) :
    s.accept (Token.unasked accepts) = s.accept accepts := by
  unfold accept
  cases token : s.token with
  | none => rfl
  | some t =>
    have kind : t ≠ .semicolon := by
      rintro rfl
      exact other token
    simp [Token.unasked, kind]

end Scan

namespace Context

variable {c : Context} {accepts : Token → Bool} {text : List CodePoint}

theorem scanAny_ne_semicolon (c : Context) (text : List CodePoint) : (c.scanAny text).token ≠ some .semicolon := by
  obtain ⟨gap, rest, s, _, _, outcome, scanned⟩ := scanAny_outcome c text
  rw [scanned]
  cases outcome with
  | read reads => exact reads.ne_semicolon
  | _ => simp [Scan.behind, Scan.nothing]

theorem scan_unasked (accepts : Token → Bool) (c : Context) (text : List CodePoint) :
    c.scan (Token.unasked accepts) text = ((c.start accepts).scanAny text).accept accepts := by
  -- A scanner begins by whether raw text is accepted, which is the same for both.
  have begun : c.start (Token.unasked accepts) = c.start accepts := by
    unfold start Token.unasked
    simp
  rw [scan, begun]
  dsimp only
  rw [if_neg (by simp [Token.unasked]), Scan.accept_unasked (scanAny_ne_semicolon _ _)]

/-- A text in which no semicolon stands next, and none can be left out. -/
def Plain (text : List CodePoint) : Prop :=
  ∃ a rest, text.dropWhile CodePoint.isBlank = a :: rest ∧ a ≠ ';' ∧ a ≠ '}' ∧ a ≠ CodePoint.nul

theorem scan_asked (plain : Plain text) (block : (c.start accepts).block = .statements)
    (accepted : accepts .semicolon = true) :
    c.scan accepts text = (((c.start accepts).scanAny (text.dropWhile CodePoint.isBlank)).accept accepts).behind
      (text.takeWhile CodePoint.isBlank).length := by
  obtain ⟨a, rest, next, semicolon, brace, nul⟩ := plain
  have none : (c.start accepts).scanSemicolon (a :: rest) = .none := by
    rw [scanSemicolon, if_neg semicolon, if_neg (not_or.mpr ⟨brace, nul⟩)]
  rw [scan]
  dsimp only
  rw [if_pos ⟨block, accepted⟩, blanks_length, next, none]

/-- Where it shows that blanks are passed over first: a placeholder opens behind them, or the rest of a template literal, which
they belong to, is found and accepted. -/
def Shifts (accepts : Token → Bool) (c : Context) (text : List CodePoint) : Prop :=
  (∃ x ∈ text.head?, CodePoint.isBlank x = true) ∧
    (c.mode = .placeholder ∧ (∃ rest, text.dropWhile CodePoint.isBlank = Char.toNat '$' :: Char.toNat '{' :: rest) ∨
      c.mode = .template ∧ accepts .template = true ∧ (Literal.end? Literal.templateMark text).isSome = true)

theorem same_code (mode : c.mode = .code) :
    (((c.scanAny (text.dropWhile CodePoint.isBlank)).accept accepts).behind
      (text.takeWhile CodePoint.isBlank).length).Same ((c.scanAny text).accept accepts) := by
  have behind : c.scanAny text =
      (c.scanCode (text.dropWhile CodePoint.isBlank)).behind (text.takeWhile CodePoint.isBlank).length := by
    simp only [scanAny, mode, blanks_length]
  have atOnce : c.scanAny (text.dropWhile CodePoint.isBlank) = c.scanCode (text.dropWhile CodePoint.isBlank) := by
    simp only [scanAny, mode, List.dropWhile_idempotent, Nat.sub_self]
    rfl
  rw [behind, atOnce]
  exact Scan.accept_behind accepts _ _

theorem scanPlaceholder_blank {x : CodePoint} (blank : CodePoint.isBlank x = true) (rest : List CodePoint) :
    c.scanPlaceholder (x :: rest) = .nothing c 0 := by
  unfold scanPlaceholder
  split
  · next a b others split =>
    obtain ⟨rfl, _⟩ := List.cons.inj split
    refine if_neg ?_
    rintro ⟨rfl, _⟩
    exact absurd blank (by decide)
  · rfl

/-- A placeholder is found behind blanks, but not with blanks before it. -/
theorem same_placeholder_iff (mode : c.mode = .placeholder) (blank : ∃ x ∈ text.head?, CodePoint.isBlank x = true) :
    (((c.scanAny (text.dropWhile CodePoint.isBlank)).accept accepts).behind
      (text.takeWhile CodePoint.isBlank).length).Same ((c.scanAny text).accept accepts) ↔
      ¬∃ rest, text.dropWhile CodePoint.isBlank = Char.toNat '$' :: Char.toNat '{' :: rest := by
  obtain ⟨x, first, blank⟩ := blank
  obtain ⟨others, rfl⟩ := List.head?_eq_some_iff.mp first
  -- At the blank itself nothing is found.
  have atOnce : c.scanAny (x :: others) = .nothing c 0 := by
    simp only [scanAny, mode]
    exact scanPlaceholder_blank blank others
  have behind : c.scanAny ((x :: others).dropWhile CodePoint.isBlank) =
      c.scanPlaceholder ((x :: others).dropWhile CodePoint.isBlank) := by
    simp only [scanAny, mode]
  rw [atOnce, behind]
  generalize (x :: others).dropWhile CodePoint.isBlank = rest
  constructor
  · rintro same ⟨tail, rfl⟩
    -- The placeholder is opened in the context that is left, even if it is not accepted.
    have left : c.mode = ((c.scanPlaceholder (Char.toNat '$' :: Char.toNat '{' :: tail)).accept accepts).context.mode :=
      congrArg Context.mode same.1
    rw [(accept_mode _ _).1, mode] at left
    cases left
  · intro absent
    have nothing : c.scanPlaceholder rest = .nothing c 0 := by
      unfold scanPlaceholder
      split
      · next a b tail =>
        refine if_neg ?_
        rintro ⟨rfl, rfl⟩
        exact absent ⟨tail, rfl⟩
      · rfl
    rw [nothing]
    exact ⟨rfl, rfl, fun found => absurd rfl found⟩

/-- The rest of a template literal is the same, but it starts behind the blanks if they are passed over. -/
theorem scan_template (mode : c.mode = .template) :
    let s := ((c.scanAny (text.dropWhile CodePoint.isBlank)).accept accepts).behind
      (text.takeWhile CodePoint.isBlank).length
    let o := (c.scanAny text).accept accepts
    s.SameEnd o ∧
      (s.token ≠ none ↔ accepts .template = true ∧ (Literal.end? Literal.templateMark text).isSome = true) ∧
      (s.token ≠ none → s.start = (text.takeWhile CodePoint.isBlank).length ∧ o.start = 0) := by
  -- In this mode the rest of the literal is read wherever the scan stands, and blanks are code points of it.
  have any : ∀ text, c.scanAny text = { c with mode := .code }.scanLiteral Literal.templateMark 0 text := by
    intro text
    simp only [scanAny, mode]
  have ends := Literal.end?_blanks (blanks_blank text) (text.dropWhile CodePoint.isBlank)
  rw [← blanks_append] at ends
  rw [any, any]
  cases found : Literal.end? Literal.templateMark (text.dropWhile CodePoint.isBlank) with
  | none =>
    rw [found, Option.map_none] at ends
    rw [scanLiteral_none _ _ _ _ found, scanLiteral_none _ _ _ _ ends, ends]
    simp [Scan.SameEnd, Scan.accept, Scan.nothing, Scan.behind]
  | some e =>
    rw [found, Option.map_some] at ends
    rw [scanLiteral_some _ _ _ _ _ found, scanLiteral_some _ _ _ _ _ ends, ends]
    by_cases accepted : accepts .template = true
    · simp [Scan.SameEnd, Scan.accept, Scan.behind, Literal.token, accepted]
    · simp [Scan.SameEnd, Scan.accept, Scan.nothing, Scan.behind, Literal.token, accepted]

theorem blanks_eq_nil (none : ¬∃ x ∈ text.head?, CodePoint.isBlank x = true) :
    text.takeWhile CodePoint.isBlank = [] ∧ text.dropWhile CodePoint.isBlank = text := by
  cases text with
  | nil => exact ⟨rfl, rfl⟩
  | cons x rest =>
    have first : ¬CodePoint.isBlank x = true := fun blank => none ⟨x, rfl, blank⟩
    exact ⟨List.takeWhile_cons_of_neg first, List.dropWhile_cons_of_neg first⟩

theorem blanks_length_pos (blank : ∃ x ∈ text.head?, CodePoint.isBlank x = true) :
    0 < (text.takeWhile CodePoint.isBlank).length := by
  obtain ⟨x, first, blank⟩ := blank
  obtain ⟨rest, rfl⟩ := List.head?_eq_some_iff.mp first
  rw [List.takeWhile_cons_of_pos blank]
  exact Nat.succ_pos _

/-- Among statements only code begins a text; everything else was begun before. -/
theorem Coherent.start_statements (coherent : c.Coherent) (block : (c.start accepts).block = .statements) :
    c.start accepts = c ∨ (c.mode = .initial ∧ (c.start accepts).mode = .code) := by
  rcases coherent with rfl | started
  · right
    unfold Context.start fresh at block ⊢
    rw [if_pos rfl] at block ⊢
    split_ifs at block ⊢
    exact ⟨rfl, rfl⟩
  · exact Or.inl (started.start accepts)

/-- In every mode that a tag of statements can be in, what is found at once is what is found behind the blanks, but where that
shows. -/
theorem same_iff (started : c.Started) (block : c.block = .statements) :
    (((c.scanAny (text.dropWhile CodePoint.isBlank)).accept accepts).behind
      (text.takeWhile CodePoint.isBlank).length).Same ((c.scanAny text).accept accepts) ↔ ¬c.Shifts accepts text := by
  have admits := started.admits
  rw [block] at admits
  by_cases blank : ∃ x ∈ text.head?, CodePoint.isBlank x = true
  -- Only code and what belongs to a template literal in it can be read among statements.
  · cases mode : c.mode with
    | code => exact iff_of_true (same_code mode) (by simp [Shifts, mode])
    | placeholder =>
      rw [same_placeholder_iff mode blank]
      simp only [Shifts, mode, blank, true_and, reduceCtorEq, false_and, or_false]
    | template =>
      obtain ⟨same, found, starts⟩ := @scan_template c accepts text mode
      have shifts : c.Shifts accepts text ↔
          accepts .template = true ∧ (Literal.end? Literal.templateMark text).isSome = true := by
        simp only [Shifts, mode, blank, true_and, reduceCtorEq, false_and, false_or]
      rw [shifts, ← found, not_not]
      constructor
      · intro whole
        by_contra here
        obtain ⟨behind, atOnce⟩ := starts here
        have moved := blanks_length_pos blank
        rw [(whole.2.2 here).1] at atOnce
        omega
      · exact fun none => ⟨same.1, same.2.1, fun here => absurd none here⟩
    | finished =>
      refine iff_of_true ?_ (by simp [Shifts, mode])
      simp [scanAny, mode, Scan.Same, Scan.accept, Scan.nothing, Scan.behind]
    | _ => simp [mode, Mode.Admits] at admits
  · -- Without a blank first both are the same scan.
    obtain ⟨taken, dropped⟩ := blanks_eq_nil blank
    rw [taken, dropped]
    exact iff_of_true (.refl _) fun shifts => blank shifts.1

/-- Where no semicolon stands next and none can be left out, a scan that is asked for semicolons finds and leaves the same as one
that is not, but for blanks before a placeholder and at the start of the rest of a template literal. That rest is the same piece
up to where it starts. -/
theorem scan_unasked_same (accepts : Token → Bool) (c : Context) (text : List CodePoint) (reached : c.Reachable)
    (accepted : accepts .semicolon = true) (plain : Plain text) :
    ((c.scan accepts text).Same (c.scan (Token.unasked accepts) text) ↔
        ¬(c.block = .statements ∧ c.Shifts accepts text)) ∧
      (c.mode = .template → (c.scan accepts text).SameEnd (c.scan (Token.unasked accepts) text)) := by
  have coherent := reached.coherent
  have started := coherent.start accepts
  rw [scan_unasked]
  by_cases block : (c.start accepts).block = .statements
  -- Only among statements a semicolon is looked for.
  · rw [scan_asked plain block accepted]
    rcases coherent.start_statements block with same | ⟨initial, code⟩
    · rw [same] at started block ⊢
      rw [same_iff started block]
      exact ⟨by simp [block], fun mode => (scan_template mode).1⟩
    · exact ⟨iff_of_true (same_code code) (by simp [Shifts, initial]), by simp [initial]⟩
  -- Elsewhere both scans are the same.
  · have atOnce : c.scan accepts text = ((c.start accepts).scanAny text).accept accepts := by
      unfold scan
      exact if_neg fun asked => block asked.1
    rw [atOnce]
    refine ⟨iff_of_true (.refl _) ?_, fun _ => (Scan.Same.refl _).sameEnd⟩
    rintro ⟨statements, _⟩
    rcases coherent with rfl | begun
    · cases statements
    · exact block (by rwa [begun.start])

/-- Behind a placeholder the rest of a template literal that begins with a blank is the same up to where it starts, and no more. -/
theorem scan_unasked_same_template :
    let all : Token → Bool := fun _ => true
    let code : Token → Bool := fun t => t ≠ .rawText ∧ t ≠ .semicolon
    let marks := [['\x60', '$', '{'], ['$', '{'], ['}']].map (List.map Char.toNat)
    let c := marks.foldl (fun c text => (c.scan code text).context) fresh
    let text := [' ', 'b', '\x60'].map Char.toNat
    c.Reachable ∧ Plain text ∧ ¬(c.scan all text).Same (c.scan (Token.unasked all) text) ∧
      (c.scan all text).SameEnd (c.scan (Token.unasked all) text) := by
  intro all code marks c text
  have reached : c.Reachable := .scan _ _ (.scan _ _ (.scan _ _ .fresh))
  have plain : Plain text := ⟨_, _, rfl, by decide, by decide, by decide⟩
  have mode : c.mode = .template := by decide
  have block : c.block = .statements := by decide
  have shifts : c.Shifts all text := ⟨⟨_, rfl, by decide⟩, Or.inr ⟨mode, rfl, by decide⟩⟩
  obtain ⟨same, upTo⟩ := scan_unasked_same all c text reached rfl plain
  exact ⟨reached, plain, fun here => same.mp here ⟨block, shifts⟩, upTo mode⟩

/-- In a script the piece of a template literal behind a placeholder is the blank and what follows it, but if semicolons are looked
for the blank is lost. -/
theorem template_loses_blank :
    let text := ['\x60', '$', '{', '1', '}', ' ', 'b', '\x60'].map Char.toNat
    let all : Token → Bool := fun _ => true
    let code : Token → Bool := fun t => t ≠ .rawText ∧ t ≠ .semicolon
    let start := Reader.mk text 0 fresh
    let reader := start.last (List.replicate 4 code)
    (start.pieces (List.replicate 4 code)).map (·.token) = [.template, .placeholderOpen, .number, .placeholderClose] ∧
      reader.rest.dropWhile CodePoint.isBlank = ['b', '\x60'].map Char.toNat ∧
      (reader.next? all).map (fun p => (p.token, p.start, p.stop)) = some (.template, 6, 8) ∧
      (reader.next? (Token.unasked all)).map (fun p => (p.token, p.start, p.stop)) = some (.template, 5, 8) := by
  decide

end Context
end Ucode.Template

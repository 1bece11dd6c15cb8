import Ucode.Proofs.Template.Coherence
import Ucode.Proofs.Template.Nesting

/-!
# Braces and placeholders nest

`CodeWord` and `LiteralBody` are the texts in which blanks, braces and template literals with placeholders stand inside each
other, to any depth. In a statement tag the scanner reads such a text as it was written: each closing brace as what it
closes. What is open around the text does not matter, and is open again behind it.
-/
namespace Ucode.Template

/-! ### Texts and their tokens -/

mutual

/-- Text of code that consists of blanks, braces and template literals. -/
inductive CodeWord where
  | done
  | blank (c : CodePoint) (isBlank : c.isBlank = true) (rest : CodeWord)
  | braces (inside rest : CodeWord)
  | literal (body : LiteralBody) (rest : CodeWord)

/-- What stands between the delimiters of a template literal: code points without a meaning of their own, and
placeholders. -/
inductive LiteralBody where
  | done
  | plain (c : CodePoint) (isPlain : c ≠ CodePoint.nul ∧ c ≠ Literal.templateMark ∧ c ≠ '\\' ∧ c ≠ '$')
      (rest : LiteralBody)
  | placeholder (inside : CodeWord) (rest : LiteralBody)

end

mutual

/-- The text of a code word. -/
def CodeWord.text : CodeWord → List CodePoint
  | .done => []
  | .blank c _ rest => c :: rest.text
  | .braces inside rest => Char.toNat '\x7b' :: (inside.text ++ Char.toNat '\x7d' :: rest.text)
  | .literal body rest => Literal.templateMark :: (body.text ++ Literal.templateMark :: rest.text)

/-- The text of the body of a literal. -/
def LiteralBody.text : LiteralBody → List CodePoint
  | .done => []
  | .plain c _ rest => c :: rest.text
  | .placeholder inside rest => Char.toNat '$' :: Char.toNat '\x7b' :: (inside.text ++ Char.toNat '\x7d' :: rest.text)

end

/-- A token with the places where it starts and ends. -/
abbrev Spot := Token × Nat × Nat

mutual

/-- The tokens of a code word that stands at a place. -/
def CodeWord.tokens (place : Nat) : CodeWord → List Spot
  | .done => []
  | .blank _ _ rest => rest.tokens (place + 1)
  | .braces inside rest =>
    let close := place + 1 + inside.text.length
    (.braceOpen, place, place + 1) :: (inside.tokens (place + 1) ++
      (.braceClose, close, close + 1) :: rest.tokens (close + 1))
  | .literal body rest => body.tokens place (place + 1) ++ rest.tokens (place + 1 + body.text.length + 1)

/-- The tokens of the body of a literal that goes on at a place, behind the start of a piece of the literal. The last piece
takes the closing delimiter along, as the first one does the opening one. -/
def LiteralBody.tokens (start place : Nat) : LiteralBody → List Spot
  | .done => [(.template, start, place + 1)]
  | .plain _ _ rest => rest.tokens start (place + 1)
  | .placeholder inside rest =>
    let close := place + 2 + inside.text.length
    (.template, start, place) :: (.placeholderOpen, place, place + 2) :: (inside.tokens (place + 2) ++
      (.placeholderClose, close, close + 1) :: rest.tokens (close + 1) (close + 1))

end

mutual

/-- How many literals stand in a code word, those inside of others counted as well. -/
def CodeWord.literals : CodeWord → Nat
  | .done => 0
  | .blank _ _ rest => rest.literals
  | .braces inside rest => inside.literals + rest.literals
  | .literal body rest => body.literals + 1 + rest.literals

/-- How many literals stand in the placeholders of a body. -/
def LiteralBody.literals : LiteralBody → Nat
  | .done => 0
  | .plain _ _ rest => rest.literals
  | .placeholder inside rest => inside.literals + rest.literals

end

mutual

/-- Each literal has one piece more than placeholders. -/
theorem CodeWord.count_template (place : Nat) (w : CodeWord) :
    (w.tokens place).countP (·.1 = .template) = (w.tokens place).countP (·.1 = .placeholderOpen) + w.literals := by
  -- Along the two kinds of text at once: a literal in code, and code in a placeholder of a literal.
  match w with
  | .done => rfl
  | .blank _ _ rest => exact rest.count_template (place + 1)
  | .braces inside rest =>
    have inner := inside.count_template (place + 1)
    have outer := rest.count_template (place + 1 + inside.text.length + 1)
    simp [CodeWord.tokens, CodeWord.literals] at inner outer ⊢
    omega
  | .literal body rest =>
    have inner := body.count_template place (place + 1)
    have outer := rest.count_template (place + 1 + body.text.length + 1)
    simp [CodeWord.tokens, CodeWord.literals] at inner outer ⊢
    omega

theorem LiteralBody.count_template (start place : Nat) (b : LiteralBody) :
    (b.tokens start place).countP (·.1 = .template) =
      (b.tokens start place).countP (·.1 = .placeholderOpen) + b.literals + 1 := by
  match b with
  | .done => rfl
  | .plain _ _ rest => exact rest.count_template start (place + 1)
  | .placeholder inside rest =>
    have inner := inside.count_template (place + 2)
    have outer := rest.count_template (place + 2 + inside.text.length + 1) (place + 2 + inside.text.length + 1)
    simp [LiteralBody.tokens, LiteralBody.literals] at inner outer ⊢
    omega

end

/-! ### Runs that find tokens -/

/-- Every token but a semicolon. -/
def ordinary (t : Token) : Bool := t ≠ .semicolon

theorem Context.scan_behind_blanks {c : Context} {gap text : List CodePoint} {a : CodePoint} (mode : c.mode = .code)
    (blanks : ∀ x ∈ gap, x.isBlank = true) (unblank : a.isBlank = false) :
    c.scan ordinary (gap ++ a :: text) = ((c.scanCode (a :: text)).behind gap.length).accept ordinary := by
  have skipped : (gap ++ a :: text).dropWhile CodePoint.isBlank = a :: text := by
    rw [List.dropWhile_append_of_pos blanks, List.dropWhile_cons_of_neg (by simp [unblank])]
  rw [scan_eq_scanAny (by simp [mode]) (by simp [ordinary]), scanAny, mode]
  dsimp only
  rw [skipped, List.length_append, Nat.add_sub_cancel]

namespace Context

variable {c : Context} {ns : List Nat}

theorem closeBrace_opened (nesting : c.nesting = Token.braceOpen.nest ns) :
    c.closeBrace = (.braceClose, { c with nesting := ns }) := by
  cases c
  cases nesting
  cases ns <;> rfl

theorem closeBrace_placeholder (nesting : c.nesting = 0 :: ns) :
    c.closeBrace = (.placeholderClose, { c with nesting := ns, mode := .template }) := by
  rw [closeBrace, nesting]

theorem scanCode_braceClose (text : List CodePoint) (block : c.block = .statements) :
    c.scanCode (Char.toNat '\x7d' :: text) = .found c.closeBrace.2 c.closeBrace.1 1 := by
  simp [scanCode, block, CodePoint.nul]

end Context

namespace Reader

variable {r middle last : Reader} {ns : List Nat} {start place : Nat} {text rest : List CodePoint} {stage : Mode}

/-- Calls that find one token after the other lead from a reader to another. -/
inductive Yields : Reader → List Spot → Reader → Prop where
  | nil (r : Reader) : Yields r [] r
  | cons {r last : Reader} {p : Piece} {tokens : List Spot} (found : r.next? ordinary = some p)
      (others : Yields (r.behind p) tokens last) : Yields r ((p.token, p.start, p.stop) :: tokens) last

theorem Yields.append {ts us : List Spot} (first : Yields r ts middle) (second : Yields middle us last) :
    Yields r (ts ++ us) last := by
  induction first with
  | nil => exact second
  | cons found _ ih => exact .cons found (ih second)

/-- As many calls as there are tokens find them. -/
theorem Yields.run {tokens : List Spot} (yields : Yields r tokens last) :
    (r.pieces (List.replicate tokens.length ordinary)).map (fun p => (p.token, p.start, p.stop)) = tokens ∧
      r.last (List.replicate tokens.length ordinary) = last := by
  induction yields with
  | nil => exact ⟨rfl, rfl⟩
  | @cons r last p tokens found _ ih =>
    rw [List.length_cons, List.replicate_succ, pieces_cons_some r _ _ p found, last_cons_some r _ _ p found, List.map_cons,
      ih.1]
    exact ⟨rfl, ih.2⟩

/-- A reader in a statement tag, in front of a text that stands at a place. In code there may be blanks before it. -/
structure Stands (r : Reader) (stage : Mode) (ns : List Nat) (place : Nat) (text : List CodePoint) : Prop where
  mode : r.context.mode = stage
  block : r.context.block = .statements
  nesting : r.context.nesting = ns
  before : ∃ gap, r.rest = gap ++ text ∧ (∀ c ∈ gap, c.isBlank = true) ∧ r.position + gap.length = place ∧
    (stage ≠ .code → gap = [])

/-- A token that is found leads to a reader in front of what stands behind it. -/
theorem exists_behind {d : Context} {t : Token} {first stop read : Nat}
    (scan : r.context.scan ordinary r.rest = ⟨d, some t, first, stop, read⟩) (block : d.block = .statements) :
    ∃ last, Yields r [(t, r.position + first, r.position + stop)] last ∧
      last.Stands d.mode d.nesting (r.position + stop) (r.rest.drop stop) := by
  have found : r.next? ordinary = some (r.piece ordinary ⟨d, some t, first, stop, read⟩ t) := by
    rw [next?, scan]
    rfl
  refine ⟨_, .cons found (.nil _), rfl, block, rfl, [], ?_, nofun, rfl, fun _ => rfl⟩
  simp [Reader.rest, behind, piece, List.drop_drop]

variable {a : CodePoint}

theorem Stands.blank (isBlank : a.isBlank = true) (stands : r.Stands .code ns place (a :: text)) :
    r.Stands .code ns (place + 1) text := by
  obtain ⟨gap, split, blanks, length, _⟩ := stands.before
  refine ⟨stands.mode, stands.block, stands.nesting, gap ++ [a], by simp [split], ?_, ?_, nofun⟩
  · exact List.forall_mem_append.mpr ⟨blanks, List.forall_mem_singleton.mpr isBlank⟩
  · rw [List.length_append, ← Nat.add_assoc, length]
    rfl

/-- A token of code starts with the next code point that is not blank. -/
theorem Stands.code {d : Context} {t : Token} {stop read : Nat} (stands : r.Stands .code ns place (a :: text))
    (unblank : a.isBlank = false) (scan : r.context.scanCode (a :: text) = ⟨d, some t, 0, stop, read⟩)
    (accepted : ordinary t = true) (block : d.block = .statements) :
    ∃ last, Yields r [(t, place, place + stop)] last ∧
      last.Stands d.mode d.nesting (place + stop) ((a :: text).drop stop) := by
  obtain ⟨gap, split, blanks, rfl, _⟩ := stands.before
  have found : r.context.scan ordinary r.rest =
      ⟨{ d with semicolon := false }, some t, gap.length, gap.length + stop, gap.length + read⟩ := by
    rw [split, Context.scan_behind_blanks stands.mode blanks unblank, scan]
    simp [Scan.accept, Scan.behind, accepted, Nat.add_comm]
  have behind : r.rest.drop (gap.length + stop) = (a :: text).drop stop := by
    rw [split, ← List.drop_drop, List.drop_left]
  have leads := exists_behind found block
  rwa [behind, ← Nat.add_assoc] at leads

theorem Stands.braceOpen (stands : r.Stands .code ns place (Char.toNat '\x7b' :: text)) :
    ∃ last, Yields r [(.braceOpen, place, place + 1)] last ∧
      last.Stands .code (Token.braceOpen.nest ns) (place + 1) text := by
  obtain ⟨mode, block, _⟩ := r.context.openBrace_same
  have leads := stands.code (t := .braceOpen) rfl rfl rfl (block.trans stands.block)
  rwa [mode, stands.mode, Context.openBrace_nesting, stands.nesting] at leads

theorem Stands.braceClose (stands : r.Stands .code (Token.braceOpen.nest ns) place (Char.toNat '\x7d' :: text)) :
    ∃ last, Yields r [(.braceClose, place, place + 1)] last ∧ last.Stands .code ns (place + 1) text := by
  have scan := Context.scanCode_braceClose text stands.block
  rw [Context.closeBrace_opened stands.nesting] at scan
  have leads := stands.code rfl scan rfl stands.block
  rwa [stands.mode] at leads

theorem Stands.placeholderClose (stands : r.Stands .code (0 :: ns) place (Char.toNat '\x7d' :: text)) :
    ∃ last, Yields r [(.placeholderClose, place, place + 1)] last ∧ last.Stands .template ns (place + 1) text := by
  have scan := Context.scanCode_braceClose text stands.block
  rw [Context.closeBrace_placeholder stands.nesting] at scan
  exact stands.code rfl scan rfl stands.block

/-- Outside of code a text stands right there. -/
theorem Stands.rest_eq (stands : r.Stands stage ns place text) (other : stage ≠ .code) :
    r.rest = text ∧ r.position = place := by
  obtain ⟨gap, split, _, length, none⟩ := stands.before
  obtain rfl := none other
  exact ⟨split, length⟩

theorem Stands.scan (stands : r.Stands stage ns place text) (other : stage = .placeholder ∨ stage = .template) :
    r.context.scan ordinary r.rest = (r.context.scanAny text).accept ordinary := by
  have begun : r.context.mode ≠ .initial := by
    rw [stands.mode]
    rcases other with rfl | rfl <;> simp
  have apart : stage ≠ .code := by rcases other with rfl | rfl <;> simp
  rw [(stands.rest_eq apart).1, Context.scan_eq_scanAny begun (by simp [ordinary])]

theorem Stands.placeholderOpen (stands : r.Stands .placeholder ns place (Char.toNat '$' :: Char.toNat '\x7b' :: text)) :
    ∃ last, Yields r [(.placeholderOpen, place, place + 2)] last ∧ last.Stands .code (0 :: ns) (place + 2) text := by
  obtain ⟨here, rfl⟩ := stands.rest_eq (by simp)
  have scan : r.context.scan ordinary r.rest = ⟨⟨.code, .statements, false, 0 :: ns⟩, some .placeholderOpen, 0, 2, 2⟩ := by
    rw [stands.scan (Or.inl rfl), Context.scanAny, stands.mode, ← stands.nesting, ← stands.block]
    rfl
  have leads := exists_behind scan rfl
  rwa [here] at leads

/-- The next token is the piece of a literal that starts at a place, and that ends where the text at another place lets a
literal end. -/
def InPiece (r : Reader) (ns : List Nat) (start place : Nat) (text : List CodePoint) : Prop :=
  ∀ e, Literal.end? Literal.templateMark text = some e →
    ∃ last, Yields r [(.template, start, place + e.stop)] last ∧
      last.Stands (if e.placeholder then .placeholder else .code) ns (place + e.stop) (text.drop e.stop)

/-- The first piece starts with the delimiter. -/
theorem Stands.first (stands : r.Stands .code ns place (Literal.templateMark :: text)) :
    r.InPiece ns place (place + 1) text := by
  intro e ends
  have scan : r.context.scanCode (Literal.templateMark :: text) = r.context.scanLiteral Literal.templateMark 1 text := by
    simp [Context.scanCode, Literal.templateMark, CodePoint.nul, CodePoint.isAmong]
  rw [Context.scanLiteral_some _ _ _ _ _ ends] at scan
  -- Whether or not a placeholder follows, only the mode of the context changes.
  generalize left : (if e.placeholder then { r.context with mode := .placeholder } else r.context : Context) = d at scan
  have mode : d.mode = if e.placeholder then .placeholder else .code := by
    rw [← left]
    split_ifs
    · rfl
    · exact stands.mode
  have kept : d.block = .statements ∧ d.nesting = ns := by
    rw [← left]
    split_ifs <;> exact ⟨stands.block, stands.nesting⟩
  have leads := stands.code rfl scan rfl kept.1
  rwa [mode, kept.2, ← Nat.add_assoc, Nat.add_comm 1, List.drop_succ_cons] at leads

/-- The others start where a placeholder was closed. -/
theorem Stands.next (stands : r.Stands .template ns place text) : r.InPiece ns place place text := by
  intro e ends
  obtain ⟨here, rfl⟩ := stands.rest_eq (by simp)
  have scan : r.context.scan ordinary r.rest =
      ⟨⟨if e.placeholder then .placeholder else .code, .statements, false, ns⟩, some .template, 0, 0 + e.stop, 0 + e.read⟩ := by
    rw [stands.scan (Or.inr rfl), Context.scanAny, stands.mode]
    dsimp only
    rw [Context.scanLiteral_some _ _ _ _ _ ends, ← stands.nesting, ← stands.block]
    cases e.placeholder <;> rfl
  have leads := exists_behind scan rfl
  rwa [here, Nat.zero_add] at leads

/-- A code point without a meaning of its own belongs to the piece. -/
theorem InPiece.plain (isPlain : a ≠ CodePoint.nul ∧ a ≠ Literal.templateMark ∧ a ≠ '\\' ∧ a ≠ '$')
    (inPiece : r.InPiece ns start place (a :: text)) : r.InPiece ns start (place + 1) text := by
  obtain ⟨proper, undelimited, unescaped, dollar⟩ := isPlain
  intro e ends
  have longer : Literal.end? Literal.templateMark (a :: text) = some e.succ := by
    rw [Literal.end?, Literal.endFrom, if_neg proper, if_neg (fun both => dollar both.2),
      if_neg (by simp [Literal.templateMark, Literal.regexMark]), if_neg unescaped, if_neg undelimited, ← Literal.end?, ends]
    rfl
  have leads := inPiece e.succ longer
  have stop : place + e.succ.stop = place + 1 + e.stop := by
    simp only [Literal.End.succ]
    omega
  rwa [stop] at leads

/-! ### The whole text -/

mutual

/-- In front of a code word its tokens are found. -/
theorem Stands.codeWord {r : Reader} {ns : List Nat} {place : Nat} {rest : List CodePoint} (w : CodeWord)
    (stands : r.Stands .code ns place (w.text ++ rest)) :
    ∃ last, Yields r (w.tokens place) last ∧ last.Stands .code ns (place + w.text.length) rest := by
  -- Each part of the word leaves the reader in front of what stands behind that part.
  match w with
  | .done => exact ⟨r, .nil r, stands⟩
  | .blank c isBlank w =>
    obtain ⟨last, yields, ends⟩ := (stands.blank isBlank).codeWord w
    refine ⟨last, yields, ?_⟩
    rwa [CodeWord.text, List.length_cons, Nat.add_comm w.text.length, ← Nat.add_assoc place]
  | .braces inside w =>
    simp only [CodeWord.text, List.cons_append, List.append_assoc] at stands
    obtain ⟨opened, yieldsOpen, stands⟩ := stands.braceOpen
    obtain ⟨within, yieldsInside, stands⟩ := stands.codeWord inside
    obtain ⟨closed, yieldsClose, stands⟩ := stands.braceClose
    obtain ⟨last, yields, stands⟩ := stands.codeWord w
    refine ⟨last, yieldsOpen.append (yieldsInside.append (yieldsClose.append yields)), ?_⟩
    convert stands using 1
    simp only [CodeWord.text, List.length_cons, List.length_append]
    omega
  | .literal body w =>
    simp only [CodeWord.text, List.cons_append, List.append_assoc] at stands
    obtain ⟨behind, yieldsBody, stands⟩ := stands.first.body body
    obtain ⟨last, yields, stands⟩ := stands.codeWord w
    refine ⟨last, yieldsBody.append yields, ?_⟩
    convert stands using 1
    simp only [CodeWord.text, List.length_cons, List.length_append]
    omega

/-- In a piece of a literal, what is left of its body leads to the code behind it. -/
theorem InPiece.body {r : Reader} {ns : List Nat} {start place : Nat} {rest : List CodePoint} (b : LiteralBody)
    (inPiece : r.InPiece ns start place (b.text ++ Literal.templateMark :: rest)) :
    ∃ last, Yields r (b.tokens start place) last ∧ last.Stands .code ns (place + b.text.length + 1) rest := by
  match b with
  | .done => exact inPiece ⟨1, 1, false⟩ rfl
  | .plain c isPlain b =>
    obtain ⟨last, yields, ends⟩ := (inPiece.plain isPlain).body b
    refine ⟨last, yields, ?_⟩
    rwa [LiteralBody.text, List.length_cons, Nat.add_comm b.text.length, ← Nat.add_assoc place]
  | .placeholder inside b =>
    simp only [LiteralBody.text, List.cons_append, List.append_assoc] at inPiece
    obtain ⟨before, yieldsPiece, stands⟩ := inPiece ⟨0, 2, true⟩ rfl
    obtain ⟨opened, yieldsOpen, stands⟩ := stands.placeholderOpen
    obtain ⟨within, yieldsInside, stands⟩ := stands.codeWord inside
    obtain ⟨closed, yieldsClose, stands⟩ := stands.placeholderClose
    obtain ⟨last, yields, stands⟩ := stands.next.body b
    refine ⟨last, yieldsPiece.append (yieldsOpen.append (yieldsInside.append (yieldsClose.append yields))), ?_⟩
    convert stands using 1
    simp only [LiteralBody.text, List.length_cons, List.length_append]
    omega

end

/-- In a statement tag a code word is read as it was written, up to blanks at its end, whatever stands behind it. What was open
before it is open again. -/
theorem run_codeWord (r : Reader) (w : CodeWord) (rest : List CodePoint) (mode : r.context.mode = .code)
    (block : r.context.block = .statements) (here : r.rest = w.text ++ rest) :
    let tokens := w.tokens r.position
    let calls := List.replicate tokens.length ordinary
    (r.pieces calls).map (fun p => (p.token, p.start, p.stop)) = tokens ∧
      tokens.countP (·.1 = .template) = tokens.countP (·.1 = .placeholderOpen) + w.literals ∧
      (r.last calls).context.mode = .code ∧ (r.last calls).context.block = .statements ∧
      (r.last calls).context.nesting = r.context.nesting ∧
      ∃ gap, (∀ c ∈ gap, c.isBlank = true) ∧ (r.last calls).rest = gap ++ rest ∧
        (r.last calls).position + gap.length = r.position + w.text.length := by
  intro tokens calls
  have stands : r.Stands .code r.context.nesting r.position (w.text ++ rest) :=
    ⟨mode, block, rfl, [], here, nofun, rfl, fun _ => rfl⟩
  obtain ⟨last, yields, stands⟩ := stands.codeWord w
  obtain ⟨found, rfl⟩ := yields.run
  obtain ⟨gap, behind, blanks, position, _⟩ := stands.before
  exact ⟨found, w.count_template r.position, stands.mode, stands.block, stands.nesting, gap, blanks, behind, position⟩

/-- A literal with an empty object in a placeholder, in a placeholder where two braces are open. -/
theorem run_codeWord_object :
    let text := ['\x60', 'a', '$', '\x7b', '\x7b', '\x7d', '\x7d', '\x60', ' ', ';'].map Char.toNat
    let r : Reader := ⟨text, 0, ⟨.code, .statements, true, [2]⟩⟩
    let calls := List.replicate 6 ordinary
    (r.pieces calls).map (fun p => (p.token, p.start, p.stop)) =
        [(.template, 0, 2), (.placeholderOpen, 2, 4), (.braceOpen, 4, 5), (.braceClose, 5, 6), (.placeholderClose, 6, 7),
          (.template, 7, 8)] ∧
      (r.last calls).context = ⟨.code, .statements, false, [2]⟩ := by
  let w : CodeWord :=
    .literal (.plain (Char.toNat 'a') (by decide) (.placeholder (.braces .done .done) .done)) (.blank (Char.toNat ' ') rfl .done)
  intro text r calls
  exact ⟨(run_codeWord r w [Char.toNat ';'] rfl rfl rfl).1, by decide⟩

end Reader
end Ucode.Template

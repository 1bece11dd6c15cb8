import Ucode.Proofs.Template.Coherence
import Ucode.Proofs.Template.Document

/-!
# Tags are paired

Every context of a run that starts with text has a standing in a document, and each token that is found leads from the
standing before it to the one behind it. So the tokens of such a run are the beginning of a document.
-/
namespace Ucode.Template

namespace Context

open Tags

/-- Where the next token of a context can stand in a document. -/
def standing? (c : Context) : Option Standing :=
  match c.mode, c.block with
  | .text, .none => some .text
  | .comment, .comment | .expressionTag, .none | .statementTag, .none | .finished, .none => some .tag
  | .code, .expression | .placeholder, .expression | .template, .expression => some .expression
  | .code, .statements | .placeholder, .statements | .template, .statements => some .statements
  | _, _ => none

variable {c : Context} {accepts : Token → Bool} {text : List CodePoint} {s : Scan} {t : Token} {standing : Standing}

theorem standing?_text (here : c.standing? = some standing) (mode : c.mode = .text) :
    c.block = .none ∧ standing = .text := by
  unfold standing? at here
  rw [mode] at here
  cases block : c.block <;> simp_all

theorem standing?_tag (here : c.standing? = some standing)
    (mode : c.mode = .comment ∨ c.mode = .expressionTag ∨ c.mode = .statementTag) : standing = .tag := by
  unfold standing? at here
  rcases mode with mode | mode | mode <;> rw [mode] at here <;> cases block : c.block <;> simp_all

theorem standing?_inTag (here : c.standing? = some standing) (mode : c.mode.InTag) :
    c.block = .expression ∧ standing = .expression ∨ c.block = .statements ∧ standing = .statements := by
  unfold standing? at here
  rcases mode with mode | mode | mode <;> rw [mode] at here <;> cases block : c.block <;> simp_all

theorem standing?_expression (mode : c.mode.InTag) (block : c.block = .expression) :
    c.standing? = some .expression := by
  unfold standing?
  rcases mode with mode | mode | mode <;> rw [mode, block]

theorem standing?_statements (mode : c.mode.InTag) (block : c.block = .statements) :
    c.standing? = some .statements := by
  unfold standing?
  rcases mode with mode | mode | mode <;> rw [mode, block]

theorem standing?_ofCode {after : Context} (here : c.standing? = some standing) (mode : c.mode.InTag)
    (stays : after.mode.InTag) (same : after.block = c.block) (member : t ∈ Token.ofCode) :
    ∃ next, standing.step t = some next ∧ after.standing? = some next := by
  obtain ⟨inExpression, inStatements⟩ := step_ofCode t member
  rcases standing?_inTag here mode with ⟨block, rfl⟩ | ⟨block, rfl⟩
  · exact ⟨_, inExpression, standing?_expression stays (by rw [same, block])⟩
  · exact ⟨_, inStatements, standing?_statements stays (by rw [same, block])⟩

theorem token_literal_ofCode (delimiter : CodePoint) : Literal.token delimiter ∈ Token.ofCode := by
  unfold Literal.token
  split_ifs <;> decide

theorem closeBrace_ofCode (mode : c.mode = .code) :
    c.closeBrace.1 ∈ Token.ofCode ∧ c.closeBrace.2.mode.InTag ∧ c.closeBrace.2.block = c.block := by
  unfold closeBrace
  split
  · exact ⟨by simp [Token.ofCode], Or.inl mode, rfl⟩
  · exact ⟨by simp [Token.ofCode], Or.inr (Or.inr rfl), rfl⟩
  · exact ⟨by simp [Token.ofCode], Or.inl mode, rfl⟩

/-- A token that is read leads from where it can stand to where the next can. -/
theorem reads_standing (here : c.standing? = some standing) (reads : Reads c text s) (token : s.token = some t) :
    ∃ next, standing.step t = some next ∧ s.context.standing? = some next := by
  -- One case for each rule: where the token can stand is told by the mode, and for closing marks by the tag that is
  -- open.
  cases reads with
  | lastText mode =>
    cases token
    obtain ⟨block, rfl⟩ := standing?_text here mode
    refine ⟨.tag, rfl, ?_⟩
    simp only [Scan.found, standing?, block]
  | textBeforeComment mode =>
    cases token
    obtain ⟨_, rfl⟩ := standing?_text here mode
    exact ⟨.tag, rfl, rfl⟩
  | textBeforeTag mode _ kind =>
    cases token
    obtain ⟨block, rfl⟩ := standing?_text here mode
    refine ⟨.tag, rfl, ?_⟩
    rcases kind with rfl | rfl <;> simp only [standing?, block]
  | comment mode =>
    cases token
    obtain rfl := standing?_tag here (Or.inl mode)
    exact ⟨.text, rfl, rfl⟩
  | expressionOpen mode =>
    cases token
    obtain rfl := standing?_tag here (Or.inr (Or.inl mode))
    exact ⟨.expression, rfl, rfl⟩
  | statementOpen mode =>
    cases token
    obtain rfl := standing?_tag here (Or.inr (Or.inr mode))
    exact ⟨.statements, rfl, rfl⟩
  | expressionClose mode block =>
    cases token
    obtain ⟨_, rfl⟩ | ⟨other, rfl⟩ := standing?_inTag here (Or.inl mode)
    · exact ⟨.text, rfl, rfl⟩
    · simp [block] at other
  | statementClose mode block =>
    cases token
    obtain ⟨other, rfl⟩ | ⟨_, rfl⟩ := standing?_inTag here (Or.inl mode)
    · simp [block] at other
    · exact ⟨.text, rfl, rfl⟩
  | braceClose mode =>
    cases token
    obtain ⟨member, stays, same⟩ := closeBrace_ofCode mode
    exact standing?_ofCode here (Or.inl mode) stays same member
  | braceOpen mode =>
    cases token
    obtain ⟨unchanged, block, _⟩ := c.openBrace_same
    exact standing?_ofCode here (Or.inl mode) (Or.inl (unchanged.trans mode)) block (by decide)
  | literal mode =>
    cases token
    refine standing?_ofCode here (Or.inl mode) ?_ ?_ (token_literal_ofCode _)
    · dsimp only
      split_ifs
      · exact Or.inr (Or.inl rfl)
      · exact Or.inl mode
    · dsimp only
      split_ifs <;> rfl
  | numeral mode =>
    cases token
    refine standing?_ofCode here (Or.inl mode) (Or.inl mode) rfl ?_
    split_ifs <;> decide
  | placeholderOpen mode =>
    cases token
    exact standing?_ofCode here (Or.inr (Or.inl mode)) (Or.inl rfl) rfl (by decide)
  | template mode =>
    cases token
    refine standing?_ofCode here (Or.inr (Or.inr mode)) ?_ rfl (by decide)
    dsimp only
    split_ifs
    · exact Or.inr (Or.inl rfl)
    · exact Or.inl rfl

theorem standing?_start (here : c.standing? = some standing) (accepts : Token → Bool) : c.start accepts = c := by
  refine start_of_begun ?_ accepts
  intro initial
  simp [standing?, initial] at here

theorem standing?_semicolon (here : c.standing? = some standing) (block : c.block = .statements) :
    standing = .statements := by
  unfold standing? at here
  rw [block] at here
  cases mode : c.mode <;> simp_all

/-- The same around a whole scan. Semicolons are looked for by the block alone, but statements can only be open in code. -/
theorem finds_standing (here : (c.start accepts).standing? = some standing) (finds : Finds accepts c text s)
    (token : s.token = some t) : ∃ next, standing.step t = some next ∧ s.context.standing? = some next := by
  -- A semicolon stands among statements, written or not.
  cases finds with
  | semicolon _ _ block =>
    cases token
    obtain rfl := standing?_semicolon here block
    exact ⟨.statements, rfl, here⟩
  | emptySemicolon _ _ _ block =>
    cases token
    obtain rfl := standing?_semicolon here block
    exact ⟨.statements, rfl, here⟩
  | token _ _ reads found =>
    obtain rfl := Option.some.inj (token.symm.trans found)
    obtain ⟨next, stepped, after⟩ := reads_standing here reads found
    exact ⟨next, stepped, after⟩

theorem scan_fresh_token (accepts : Token → Bool) (text : List CodePoint) (accepted : accepts .rawText = true) :
    (fresh.scan accepts text).token = some .rawText := by
  have begun : fresh.start accepts = ⟨.text, .none, false, []⟩ := by simp [start, fresh, accepted]
  unfold scan
  rw [begun]
  dsimp only
  rw [if_neg (by simp)]
  unfold scanAny scanText
  dsimp only
  split <;> simp [Scan.accept, Scan.found, accepted]

theorem reads_rawText (reads : Reads c text s) (token : s.token = some .rawText) :
    c.mode = .text ∧ (s.context = { c with mode := .finished } ∨ s.stop + 2 ≤ text.length) := by
  cases reads with
  | lastText mode => exact ⟨mode, Or.inl rfl⟩
  | textBeforeComment mode raw => exact ⟨mode, Or.inr (Markup.rawText_tag_length raw)⟩
  | textBeforeTag mode raw => exact ⟨mode, Or.inr (Markup.rawText_tag_length raw)⟩
  -- What is read in a tag is a token of code, and text is none.
  | braceClose mode =>
    have member := (closeBrace_ofCode mode).1
    rw [Option.some.inj token] at member
    exact absurd member (by decide)
  | @literal delimiter =>
    have member := token_literal_ofCode delimiter
    rw [Option.some.inj token] at member
    exact absurd member (by decide)
  | numeral => exact absurd (Option.some.inj token) (by split_ifs <;> decide)
  | _ => cases token

theorem finished_finds (started : c.Started) (mode : c.mode = .finished) (block : c.block ≠ .statements) :
    ¬Finds accepts c text s := by
  intro finds
  have same := started.start accepts
  cases finds with
  | semicolon _ _ statements => exact block (by rwa [same] at statements)
  | emptySemicolon _ _ _ statements => exact block (by rwa [same] at statements)
  | token _ _ reads =>
    rw [same] at reads
    cases reads <;> simp_all

end Context

namespace Reader

open Tags

theorem pieces_walk (r : Reader) (calls : List (Token → Bool)) (standing : Standing)
    (here : r.context.standing? = some standing) :
    ∃ next, standing.walk ((r.pieces calls).map (·.token)) = some next := by
  -- The standing of the context carries the walk from one piece to the next.
  refine run_induction r calls (P := fun r pieces _ => ∀ standing, r.context.standing? = some standing →
    ∃ next, standing.walk (pieces.map (·.token)) = some next) ?_ ?_ standing here
  · intro r standing _
    exact ⟨standing, rfl⟩
  · intro r accepts p pieces last found ih standing here
    obtain ⟨s, t, finds, token, rfl⟩ := r.next?_finds accepts p found
    rw [← Context.standing?_start here accepts] at here
    obtain ⟨middle, stepped, after⟩ := Context.finds_standing here finds token
    obtain ⟨next, others⟩ := ih middle after
    refine ⟨next, ?_⟩
    rw [List.map_cons, Standing.walk, piece, stepped]
    exact others

/-- A first call that accepts text finds it, and the run walks on from there. -/
theorem pieces_walk_fresh (r : Reader) (first : Token → Bool) (later : List (Token → Bool))
    (fresh : r.context = .fresh) (accepted : first .rawText = true) :
    ∃ next, Standing.text.walk ((r.pieces (first :: later)).map (·.token)) = some next := by
  -- A fresh context has no standing yet: the first call decides that it is in text.
  have token := Context.scan_fresh_token first r.rest accepted
  rw [← fresh] at token
  have here : (r.context.start first).standing? = some .text := by
    simp [fresh, Context.start, Context.fresh, accepted, Context.standing?]
  have found : r.next? first = some (r.piece first (r.context.scan first r.rest) .rawText) := by
    simp only [next?, token, Option.map_some]
  obtain ⟨middle, stepped, after⟩ :=
    Context.finds_standing here (Context.scan_finds first r.context r.rest _ token) token
  obtain ⟨next, others⟩ := pieces_walk (r.behind (r.piece first _ .rawText)) later middle after
  refine ⟨next, ?_⟩
  rw [pieces_cons_some r first later _ found, List.map_cons, Standing.walk, piece, stepped]
  exact others

theorem pieces_finished (r : Reader) (calls : List (Token → Bool)) (started : r.context.Started)
    (mode : r.context.mode = .finished) (block : r.context.block ≠ .statements) : r.pieces calls = [] := by
  cases split : r.pieces calls with
  | nil => rfl
  | cons p back =>
    obtain ⟨accepts, _, found, _⟩ := r.pieces_eq_cons calls p back split
    obtain ⟨s, t, finds, _⟩ := r.next?_finds accepts p found
    exact absurd finds (Context.finished_finds started mode block)

/-- Text that ran to the end of the whole text is the last piece. -/
theorem pieces_behind_end (r : Reader) (calls : List (Token → Bool)) (accepts : Token → Bool) (p : Piece)
    (coherent : r.context.Coherent) (found : r.next? accepts = some p) (raw : p.token = .rawText)
    (ended : r.text.length ≤ p.stop) : (r.behind p).pieces calls = [] := by
  obtain ⟨s, t, finds, token, rfl⟩ := r.next?_finds accepts p found
  obtain rfl : t = .rawText := raw
  have after : s.context.Started := coherent.finds finds
  cases finds with
  | semicolon => cases token
  | emptySemicolon => cases token
  | @token gap rest s _ split _ reads =>
    obtain ⟨mode, finished | more⟩ := Context.reads_rawText reads token
    · refine pieces_finished _ calls after ?_ ?_
      · simp [behind, piece, Scan.behind, finished]
      · simp [behind, piece, Scan.behind, finished, (coherent.start accepts).outside mode]
    · -- An opening mark behind the text lies before the end.
      have left := congrArg List.length split
      rw [Reader.rest, List.length_drop, List.length_append] at left
      dsimp only [piece, Scan.behind] at ended
      omega

/-- In a run that starts with text the tokens are the beginning of a document: each fits the tag that is open, and text
that runs to the end is the last piece. -/
theorem pieces_tagged (text : List CodePoint) (position : Nat) (first : Token → Bool) (later : List (Token → Bool))
    (accepted : first .rawText = true) :
    let pieces := (Reader.mk text position .fresh).pieces (first :: later)
    (∃ rest, pieces.map (·.token) ++ rest ∈ document.matches') ∧
      Token.EachFits Token.FitsTag Token.openTag .none (pieces.map (·.token)) ∧
      ∀ front p back, pieces = front ++ p :: back → p.token = .rawText → text.length ≤ p.stop → back = [] := by
  intro pieces
  have walked : ∃ next, Standing.text.walk (pieces.map (·.token)) = some next :=
    pieces_walk_fresh _ first later rfl accepted
  obtain ⟨next, walked⟩ := walked
  refine ⟨walk_completes .text next _ walked, walk_fitsTag .text next _ walked, ?_⟩
  intro front p back split raw ended
  -- The calls up to this piece are a run of their own, and so are those behind it.
  obtain ⟨before, behind, _, _, rest⟩ := pieces_eq_append _ _ front (p :: back) split
  obtain ⟨accepts, calls, found, same⟩ := pieces_eq_cons _ behind p back rest
  rw [← same]
  refine pieces_behind_end _ calls accepts p ?_ found raw ?_
  · exact last_coherent _ before (Or.inl rfl)
  · rw [last_text]
    exact ended

/-- Text and a statement tag: behind the tag the text is empty and ends the document. -/
theorem pieces_tagged_statement :
    let text := ['a', '{', '%', ' ', ';', ' ', '%', '}'].map Char.toNat
    let all : Token → Bool := fun _ => true
    let pieces := (Reader.mk text 0 .fresh).pieces (all :: List.replicate 5 all)
    all .rawText = true ∧
      pieces.map (·.token) = [.rawText, .statementOpen, .semicolon, .statementClose, .rawText] ∧
      (∃ rest, pieces.map (·.token) ++ rest ∈ document.matches') := by
  intro text all pieces
  refine ⟨rfl, by decide, ?_⟩
  exact (pieces_tagged text 0 all (List.replicate 5 all) rfl).1

end Reader
end Ucode.Template

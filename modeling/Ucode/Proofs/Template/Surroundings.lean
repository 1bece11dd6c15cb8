import Mathlib.Data.List.DropRight
import Ucode.Parse.Run
import Ucode.Proofs.Template.Archive
import Ucode.Proofs.Template.Closing
import Ucode.Tree.Expression

/-!
# Code in other surroundings

The same code can stand in a statement tag, in an expression tag or in a placeholder of a template literal. The tokens that
are found in it are the same everywhere, as long as no mark in it closes the tag around it, no brace in it the placeholder
around it, and semicolons are looked for in statements only.
-/
namespace Ucode.Template

/-- A longer nesting with the same placeholders innermost is changed by a token as the shorter one is. -/
theorem Token.nest_prefix {inner whole : List Nat} (within : inner <+: whole) (t : Token) (fits : t.Fits inner) :
    t.nest inner <+: t.nest whole := by
  obtain ⟨outer, rfl⟩ := within
  cases inner with
  | nil =>
    cases t with
    | placeholderOpen => exact ⟨outer, rfl⟩
    | placeholderClose => cases fits
    | _ => exact List.nil_prefix
  | cons depth inner => cases t <;> exact ⟨outer, rfl⟩

/-- What can be told of an outcome from anywhere: which token was found and where, and what can follow it. -/
def Scan.shape (s : Scan) : Option Token × Nat × Nat × Nat × Mode × Bool :=
  (s.token, s.start, s.stop, s.read, s.context.mode, s.context.semicolon)

namespace Context

/-- A context that goes on in larger surroundings: at the same place in the code, with more placeholders around it. -/
structure Inside (c d : Context) : Prop where
  mode : d.mode = c.mode
  semicolon : d.semicolon = c.semicolon
  nesting : c.nesting <+: d.nesting

variable {c d : Context} {accepts : Token → Bool} {text : List CodePoint} {s : Scan} {t : Token}

theorem start_of_inTag (inTag : c.mode.InTag) (accepts : Token → Bool) : c.start accepts = c := by
  refine start_of_begun ?_ accepts
  intro initial
  simp [initial, Mode.InTag] at inTag

theorem finds_inTag (inTag : c.mode.InTag) (finds : Finds accepts c text s) (token : s.token = some t)
    (stays : ¬t.Closes) : s.context.mode.InTag ∧ s.context.block = c.block := by
  have same := start_of_inTag inTag accepts
  rcases finds_at_start finds with ⟨_, _, ⟨flag, left⟩, _⟩ | ⟨outcome, reads, found, left⟩
  · rw [left, same]
    exact ⟨inTag, rfl⟩
  · rw [same] at reads
    rw [left]
    rcases reads_tag reads (found.symm.trans token) with closes | ⟨outside, _⟩ | ⟨after, block⟩
    · exact absurd closes stays
    · exact absurd inTag outside
    · exact ⟨after, block inTag⟩

theorem scanCode_minus (c : Context) (rest : List CodePoint) (clear : ¬c.block.ClosesAt (Char.toNat '-' :: rest)) :
    c.scanCode (Char.toNat '-' :: rest) = .nothing c 1 := by
  unfold scanCode
  dsimp only
  rw [if_neg (by decide), if_pos rfl]
  split
  · rw [if_neg, if_neg]
    · rintro ⟨block, rfl, rfl⟩
      exact clear ⟨_, by rw [block]; exact .tail _ (.head _), _, rfl⟩
    · rintro ⟨block, rfl, rfl⟩
      exact clear ⟨_, by rw [block]; exact .tail _ (.head _), _, rfl⟩
  · rfl

theorem scanCode_percent (c : Context) (rest : List CodePoint) (clear : ¬c.block.ClosesAt (Char.toNat '%' :: rest)) :
    c.scanCode (Char.toNat '%' :: rest) = .nothing c 1 := by
  unfold scanCode
  dsimp only
  rw [if_neg (by decide), if_neg (by decide), if_pos rfl, if_neg]
  rintro ⟨block, next⟩
  obtain ⟨others, rfl⟩ := List.head?_eq_some_iff.mp next
  exact clear ⟨_, by rw [block]; exact .head _, _, rfl⟩

theorem scanCode_brace (c : Context) (rest : List CodePoint) (clear : ¬c.block.ClosesAt (Char.toNat '}' :: rest)) :
    c.scanCode (Char.toNat '}' :: rest) = .found c.closeBrace.2 c.closeBrace.1 1 := by
  unfold scanCode
  dsimp only
  rw [if_neg (by decide), if_neg (by decide), if_neg (by decide), if_pos rfl, if_neg]
  rintro ⟨block, next⟩
  obtain ⟨others, rfl⟩ := List.head?_eq_some_iff.mp next
  exact clear ⟨_, by rw [block]; exact .head _, _, rfl⟩

/-- Where a token is read that does not close the tag, no mark stands that would. -/
theorem not_closesAt_of_scanCode (mode : c.mode = .code) (found : (c.scanCode text).token = some t)
    (stays : ¬t.Closes) : ¬c.block.ClosesAt text := by
  intro mark
  have outcome := c.scanCode_outcome text mode
  generalize c.scanCode text = s at found outcome
  cases outcome with
  | read reads => exact stays (reads_of_closesAt reads found mode mark)
  | stay => cases found
  | finish => cases found
  | leave => cases found

theorem scanLiteral_shape (inside : c.Inside d) (delimiter : CodePoint) (offset : Nat) (text : List CodePoint) :
    (d.scanLiteral delimiter offset text).shape = (c.scanLiteral delimiter offset text).shape := by
  cases ends : Literal.end? delimiter text with
  | none =>
    rw [scanLiteral_none _ _ _ _ ends, scanLiteral_none _ _ _ _ ends]
    simp only [Scan.shape, Scan.nothing, inside.mode, inside.semicolon]
  | some e =>
    rw [scanLiteral_some _ _ _ _ _ ends, scanLiteral_some _ _ _ _ _ ends]
    cases placeholder : e.placeholder <;> simp [Scan.shape, inside.mode, inside.semicolon]

/-- A brace that closes is the same token in both nestings if what it is in the one fits the other. -/
theorem closeBrace_shape (inside : c.Inside d) (fits : c.closeBrace.1.Fits d.nesting) (length : Nat) :
    (Scan.found d.closeBrace.2 d.closeBrace.1 length).shape = (Scan.found c.closeBrace.2 c.closeBrace.1 length).shape := by
  obtain ⟨mode, semicolon, outer, whole⟩ := inside
  revert fits
  unfold closeBrace
  rw [← whole]
  cases c.nesting with
  | nil =>
    -- Nothing of its own is open, so the brace may not close what is open around it.
    intro fits
    rcases outer with _ | ⟨_ | depth, outer⟩
    · simp [Scan.shape, Scan.found, mode, semicolon]
    · exact absurd rfl fits
    · simp [Scan.shape, Scan.found, mode, semicolon]
  | cons depth inner => cases depth <;> simp [Scan.shape, Scan.found, mode, semicolon]

theorem openBrace_shape (inside : c.Inside d) (length : Nat) :
    (Scan.found d.openBrace .braceOpen length).shape = (Scan.found c.openBrace .braceOpen length).shape := by
  obtain ⟨mode, _, semicolon⟩ := c.openBrace_same
  obtain ⟨modeToo, _, semicolonToo⟩ := d.openBrace_same
  simp only [Scan.shape, Scan.found, mode, semicolon, modeToo, semicolonToo, inside.mode, inside.semicolon]

/-- Code begins with the same token everywhere, if it does not close what is around it. -/
theorem scanCode_shape (inside : c.Inside d) (mode : c.mode = .code) (found : (c.scanCode text).token = some t)
    (stays : ¬t.Closes) (fits : t.Fits d.nesting) (clear : ¬d.block.ClosesAt text) :
    (d.scanCode text).shape = (c.scanCode text).shape := by
  have clearHere := not_closesAt_of_scanCode mode found stays
  cases text with
  | nil => simp only [scanCode, Scan.shape, Scan.nothing, inside.semicolon]
  | cons a rest =>
    by_cases minus : a = '-'
    · subst minus
      rw [scanCode_minus c rest clearHere] at found
      cases found
    by_cases percent : a = '%'
    · subst percent
      rw [scanCode_percent c rest clearHere] at found
      cases found
    by_cases shut : a = '}'
    · subst shut
      rw [scanCode_brace c rest clearHere] at found ⊢
      rw [scanCode_brace d rest clear]
      cases found
      exact closeBrace_shape inside fits 1
    · -- Every other branch asks for nothing but the text.
      unfold scanCode
      dsimp only
      simp only [if_neg minus, if_neg percent, if_neg shut]
      split_ifs
      · simp only [Scan.shape, Scan.nothing, inside.semicolon]
      · exact openBrace_shape inside 1
      · exact scanLiteral_shape inside a 1 rest
      · simp only [Scan.shape, Scan.nothing, inside.mode, inside.semicolon]
      · exact scanLiteral_shape inside _ 1 rest
      · simp only [Scan.shape, inside.mode, inside.semicolon]
      · simp only [Scan.shape, inside.mode, inside.semicolon]
      · simp only [Scan.shape, Scan.nothing, inside.mode, inside.semicolon]

theorem shape_behind {s o : Scan} (same : o.shape = s.shape) (blanks : Nat) :
    (o.behind blanks).shape = (s.behind blanks).shape := by
  simp only [Scan.shape, Prod.mk.injEq] at same
  simp only [Scan.shape, Scan.behind, same]

theorem shape_accept {s o : Scan} (same : o.shape = s.shape) (accepts : Token → Bool) :
    (o.accept accepts).shape = (s.accept accepts).shape := by
  simp only [Scan.shape, Prod.mk.injEq] at same
  unfold Scan.accept
  rw [same.1]
  split
  · split_ifs
    · simp only [Scan.shape, same]
    · simp only [Scan.shape, Scan.nothing, same]
  · simp only [Scan.shape, same]

theorem accept_token {s : Scan} (accepted : (s.accept accepts).token = some t) : s.token = some t := by
  unfold Scan.accept at accepted
  split at accepted
  · split_ifs at accepted
    · exact accepted
    · cases accepted
  · exact accepted

theorem scanAny_shape (inside : c.Inside d) (inTag : c.mode.InTag) (found : (c.scanAny text).token = some t)
    (stays : ¬t.Closes) (fits : t.Fits d.nesting)
    (clear : c.mode = .code → ¬d.block.ClosesAt (text.dropWhile CodePoint.isBlank)) :
    (d.scanAny text).shape = (c.scanAny text).shape := by
  revert found
  unfold scanAny
  rw [inside.mode]
  -- A tag is open, so it is code, or a placeholder or the rest of a literal in code.
  rcases inTag with mode | mode | mode
  · rw [mode]
    intro found
    exact shape_behind (scanCode_shape inside mode found stays fits (clear mode)) _
  · rw [mode]
    intro _
    dsimp only
    unfold scanPlaceholder
    split
    · split_ifs
      · simp only [Scan.shape, Scan.found, openPlaceholder, inside.semicolon]
      · simp only [Scan.shape, Scan.nothing, inside.mode, inside.semicolon]
    · simp only [Scan.shape, Scan.nothing, inside.mode, inside.semicolon]
  · rw [mode]
    intro _
    have behind : Inside { c with mode := .code } { d with mode := .code } :=
      ⟨rfl, inside.semicolon, inside.nesting⟩
    exact scanLiteral_shape behind _ 0 text

theorem scanSemicolon_shape (inside : c.Inside d) (text : List CodePoint) :
    (d.scanSemicolon text).map Scan.shape = (c.scanSemicolon text).map Scan.shape := by
  -- Whether a semicolon was just left out is the same in both contexts.
  have empty : (scanSemicolon.empty d).shape = (scanSemicolon.empty c).shape := by
    unfold scanSemicolon.empty
    rw [inside.semicolon]
    split_ifs
    · simp only [Scan.shape, Scan.nothing, inside.mode]
    · simp only [Scan.shape, Scan.found, inside.mode]
  unfold scanSemicolon
  split
  · exact congrArg some empty
  · split_ifs
    · simp only [Option.map_some, Scan.shape, Scan.found, inside.mode]
    · exact congrArg some empty
    · rfl

theorem scan_shape (inside : c.Inside d) (inTag : c.mode.InTag) (asked : accepts .semicolon = true → d.block = c.block)
    (found : (c.scan accepts text).token = some t) (stays : ¬t.Closes) (fits : t.Fits d.nesting)
    (clear : c.mode = .code → ¬d.block.ClosesAt (text.dropWhile CodePoint.isBlank)) :
    (d.scan accepts text).shape = (c.scan accepts text).shape := by
  have inTagToo : d.mode.InTag := by rwa [inside.mode]
  -- Semicolons are looked for in both contexts or in neither.
  have blocks : (d.block = .statements ∧ accepts .semicolon = true) ↔
      (c.block = .statements ∧ accepts .semicolon = true) := by
    constructor
    · rintro ⟨block, accepted⟩
      exact ⟨(asked accepted).symm.trans block, accepted⟩
    · rintro ⟨block, accepted⟩
      exact ⟨(asked accepted).trans block, accepted⟩
  unfold scan at found ⊢
  rw [start_of_inTag inTag] at found ⊢
  rw [start_of_inTag inTagToo]
  dsimp only at found ⊢
  simp only [blocks]
  split_ifs at found ⊢
  · have semicolon := scanSemicolon_shape inside (text.dropWhile CodePoint.isBlank)
    cases here : c.scanSemicolon (text.dropWhile CodePoint.isBlank) with
    | some outcome =>
      rw [here, Option.map_some] at semicolon
      obtain ⟨other, there, same⟩ := Option.map_eq_some_iff.mp semicolon
      rw [there]
      exact shape_behind same _
    | none =>
      rw [here, Option.map_none] at semicolon
      rw [Option.map_eq_none_iff.mp semicolon]
      rw [here] at found
      refine shape_behind (shape_accept ?_ accepts) _
      refine scanAny_shape inside inTag (accept_token found) stays fits ?_
      rwa [List.dropWhile_idempotent]
  · exact shape_accept (scanAny_shape inside inTag (accept_token found) stays fits clear) accepts

/-- One scan in larger surroundings: the token is the same, and so is the place it leads to. -/
theorem Inside.scan (inside : c.Inside d) (inTag : c.mode.InTag)
    (asked : accepts .semicolon = true → d.block = c.block) (found : (c.scan accepts text).token = some t)
    (stays : ¬t.Closes) (fits : t.Fits d.nesting)
    (clear : c.mode = .code → ¬d.block.ClosesAt (text.dropWhile CodePoint.isBlank)) :
    (d.scan accepts text).shape = (c.scan accepts text).shape ∧
      (c.scan accepts text).context.Inside (d.scan accepts text).context := by
  have same := scan_shape inside inTag asked found stays fits clear
  refine ⟨same, ?_⟩
  simp only [Scan.shape, Prod.mk.injEq] at same
  obtain ⟨token, _, _, _, mode, semicolon⟩ := same
  have foundToo := token.trans found
  obtain ⟨fitsHere, nesting⟩ := finds_nesting (scan_finds accepts c text t found) found
  obtain ⟨_, nestingToo⟩ := finds_nesting (scan_finds accepts d text t foundToo) foundToo
  -- The token counts in both nestings in the same way, as it fits the inner one.
  refine ⟨mode, semicolon, ?_⟩
  rw [nesting, nestingToo]
  exact t.nest_prefix inside.nesting fitsHere

/-- The calls, each with the context in which it is made. -/
def visits (c : Context) : List Call → List (Context × Call)
  | [] => []
  | call :: calls => (c, call) :: (c.scan call.accepts call.text).context.visits calls

/-- In larger surroundings calls find the same tokens at the same places: in a tag of the other kind, and with any
placeholders around it. Semicolons may not be looked for if the tags differ, no token may close the tag or the placeholder
around the code, and no mark that closes the larger surroundings may stand where code goes on. -/
theorem scans_shape (c d : Context) (calls : List Call) (tokens : List Token) (inside : c.Inside d)
    (inTag : c.mode.InTag) (asked : d.block = c.block ∨ ∀ call ∈ calls, call.accepts .semicolon = false)
    (found : (c.scans calls).map (·.token) = tokens.map some) (stays : ∀ t ∈ tokens, ¬t.Closes)
    (fits : Token.EachFits Token.Fits Token.nest d.nesting tokens)
    (clear : ∀ v ∈ c.visits calls, v.1.mode = .code →
      ¬d.block.ClosesAt (v.2.text.dropWhile CodePoint.isBlank)) :
    (d.scans calls).map Scan.shape = (c.scans calls).map Scan.shape := by
  -- What carries the induction is that the one context stays inside the other, and that both stay in their tags.
  induction calls generalizing c d tokens with
  | nil => rfl
  | cons call calls ih =>
    cases tokens with
    | nil => cases found
    | cons t tokens =>
      obtain ⟨token, others⟩ := List.cons.inj found
      obtain ⟨staysHere, staysLater⟩ := List.forall_mem_cons.mp stays
      obtain ⟨clearHere, clearLater⟩ := List.forall_mem_cons.mp clear
      have askedHere : call.accepts .semicolon = true → d.block = c.block := by
        intro accepted
        rcases asked with same | never
        · exact same
        · simp [never call List.mem_cons_self] at accepted
      obtain ⟨same, insideLater⟩ := inside.scan inTag askedHere token staysHere fits.1 clearHere
      have tokenToo : (d.scan call.accepts call.text).token = some t := (congrArg Prod.fst same).trans token
      have finds := scan_finds call.accepts c call.text t token
      have findsToo := scan_finds call.accepts d call.text t tokenToo
      obtain ⟨inTagLater, block⟩ := finds_inTag inTag finds token staysHere
      have inTagToo : d.mode.InTag := by rwa [inside.mode]
      obtain ⟨_, blockToo⟩ := finds_inTag inTagToo findsToo tokenToo staysHere
      have rest := ih (c.scan call.accepts call.text).context (d.scan call.accepts call.text).context tokens insideLater
        inTagLater ?_ others staysLater ?_ ?_
      · rw [scans, scans, List.map_cons, List.map_cons, same, rest]
      · rw [block, blockToo]
        exact asked.imp id fun never call member => never call (List.mem_cons_of_mem _ member)
      · rw [(finds_nesting findsToo tokenToo).2]
        exact fits.2
      · rw [blockToo]
        exact clearLater

/-- A block in a statement tag, and in a placeholder in an expression tag. -/
theorem scans_shape_block :
    let accepts : Token → Bool := fun t => t ≠ .semicolon
    let calls := [['{', '1', '}', ')'], ['1', '}', ')'], ['}', ')']].map fun text => Call.mk accepts (text.map Char.toNat)
    let c := Context.mk .code .statements false []
    let d := Context.mk .code .expression false [0]
    let tokens : List Token := [.braceOpen, .number, .braceClose]
    c.Inside d ∧ c.mode.InTag ∧ (∀ call ∈ calls, call.accepts .semicolon = false) ∧
      (c.scans calls).map (·.token) = tokens.map some ∧ (∀ t ∈ tokens, ¬t.Closes) ∧
      (d.scans calls).map Scan.shape = (c.scans calls).map Scan.shape := by
  intro accepts calls c d tokens
  have inside : c.Inside d := ⟨rfl, rfl, List.nil_prefix⟩
  have never : ∀ call ∈ calls, call.accepts .semicolon = false := by decide
  have found : (c.scans calls).map (·.token) = tokens.map some := by decide
  have stays : ∀ t ∈ tokens, ¬t.Closes := by decide
  have clear : ∀ v ∈ c.visits calls, v.1.mode = .code →
      ¬d.block.ClosesAt (v.2.text.dropWhile CodePoint.isBlank) := by decide
  refine ⟨inside, Or.inl rfl, never, found, stays, ?_⟩
  exact scans_shape c d calls tokens inside (Or.inl rfl) (Or.inr never) found stays
    ⟨trivial, trivial, by simp [Token.Fits, Token.nest, d], trivial⟩ clear

/-- Among statements a brace that closes ends the statement before it, but no more than once. -/
theorem scan_before_brace (c : Context) (accepts : Token → Bool) (text rest : List CodePoint) (mode : c.mode = .code)
    (block : c.block = .statements) (accepted : accepts .semicolon = true)
    (brace : text.dropWhile CodePoint.isBlank = Char.toNat '}' :: rest) :
    c.scan accepts text = (scanSemicolon.empty c).behind (text.takeWhile CodePoint.isBlank).length := by
  unfold scan
  rw [start_of_inTag (Or.inl mode)]
  dsimp only
  rw [if_pos ⟨block, accepted⟩, blanks_length, brace]
  rfl

theorem drop_blanks (text : List CodePoint) :
    text.drop (text.takeWhile CodePoint.isBlank).length = text.dropWhile CodePoint.isBlank := by
  have whole := @List.drop_left _ (text.takeWhile CodePoint.isBlank) (text.dropWhile CodePoint.isBlank)
  rwa [List.takeWhile_append_dropWhile] at whole

/-- A semicolon is left out before a brace, and as long as semicolons are looked for nothing is found at the brace behind
it: no brace is closed there that was counted. -/
theorem scan_brace_behind_semicolon (c : Context) (accepts later : Token → Bool) (text rest : List CodePoint)
    (mode : c.mode = .code) (block : c.block = .statements) (first : c.semicolon = false)
    (accepted : accepts .semicolon = true) (again : later .semicolon = true)
    (brace : text.dropWhile CodePoint.isBlank = Char.toNat '}' :: rest) :
    let s := c.scan accepts text
    s.token = some .semicolon ∧ s.context = { c with semicolon := true } ∧
      (s.context.scan later (text.drop s.stop)).token = none := by
  intro s
  have empty : s = (Scan.found { c with semicolon := true } .semicolon 0).behind
      (text.takeWhile CodePoint.isBlank).length := by
    have scanned := scan_before_brace c accepts text rest mode block accepted brace
    rwa [scanSemicolon.empty, first] at scanned
  have left : text.drop s.stop = Char.toNat '}' :: rest := by
    rw [← brace, ← drop_blanks, empty]
    simp only [Scan.behind, Scan.found, Nat.zero_add]
  -- The next scan stands at the brace, where the semicolon cannot be left out once more.
  have stays : (text.drop s.stop).dropWhile CodePoint.isBlank = Char.toNat '}' :: rest := by
    rw [left, List.dropWhile_cons_of_neg (by decide)]
  refine ⟨by rw [empty]; rfl, by rw [empty]; rfl, ?_⟩
  have context : s.context = { c with semicolon := true } := by rw [empty]; rfl
  rw [scan_before_brace s.context later _ rest (by rw [context]; exact mode) (by rw [context]; exact block) again stays,
    context]
  rfl

end Context

/-- The body of a lambda ends where a semicolon is left out, so its brace is counted as open and the one that ends the
placeholder is taken for it: what stands in parentheses without an error has one in a placeholder. -/
theorem lambda_in_placeholder :
    let before := ['{', '%', ' ', 'l', 'e', 't', ' ', 'v', ' ', '=', ' ']
    let lambda := ['(', '(', ')', ' ', '=', '>', ' ', '{', '}', ')']
    let behind := [';', ' ', '%', '}']
    (parse ((before ++ lambda ++ behind).map Char.toNat)).hasError = false ∧
      (parse ((before ++ ['\x60', '$', '{'] ++ lambda ++ ['}', '\x60'] ++ behind).map Char.toNat)).hasError = true := by
  decide +kernel

end Ucode.Template

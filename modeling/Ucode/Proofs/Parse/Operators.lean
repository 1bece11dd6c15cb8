import Ucode.Proofs.Grammar.Expressions
import Ucode.Proofs.Parse.Reading
import Ucode.Proofs.Template.Expressions
import Ucode.Proofs.Tree.Shows

/-!
# Expressions are parsed by precedence climbing

Between two tokens the parser has some operands on its stack that wait for their right operands, each with its operator.
When the next operator is read, the table lets it end the topmost of them exactly if precedence climbing would, so what the
stack stands for stays the expression that precedence climbing finds (`unwind`).
-/
namespace Ucode

namespace Expression

/-! ### Operands that wait -/

/-- The level of the operator that the next operand stands behind. -/
def innermost : List (Expression × Operator) → Nat
  | [] => 0
  | (_, o) :: _ => o.level

/-- What precedence climbing makes of operands that wait, the last one first, of the one that is read, and of the rest. -/
def unwind : List (Expression × Operator) → Expression → List (Operator × Name) → Expression
  | [], e, rest => (climb 0 e rest).1.1
  | (l, o) :: pending, e, rest =>
    unwind pending (.binary l o (climb o.rightLevel e rest).1.1) (climb o.rightLevel e rest).1.2

/-- Puts operands together until an operator can take the last one, and leaves those that still wait. -/
def settle (next : Operator) : List (Expression × Operator) → Expression → List (Expression × Operator) × Expression
  | [], e => ([], e)
  | (l, o) :: pending, e =>
    if next.level < Grammar.leastLevel o.level then settle next pending (.binary l o e) else ((l, o) :: pending, e)

section Unwind

variable {pending : List (Expression × Operator)} {e l : Expression} {o o' : Operator} {x : Name}
  {rest : List (Operator × Name)}

/-- An operator that binds tightly enough takes what was read as its left operand. -/
theorem unwind_shift (tight : ¬o'.level < Grammar.leastLevel (innermost pending)) :
    unwind pending e ((o', x) :: rest) = unwind ((e, o') :: pending) (.name x) rest := by
  cases pending with
  | nil => rw [unwind, climb_take 0 e o' x rest (Nat.zero_le _), unwind, unwind]
  | cons operand pending =>
    obtain ⟨l, o⟩ := operand
    have least : o.rightLevel ≤ o'.level := by
      rw [Grammar.rightLevel_eq]
      exact Nat.not_lt.mp tight
    rw [unwind, climb_take o.rightLevel e o' x rest least, unwind, unwind]

/-- One that does not ends the right operand of the operator before. -/
theorem unwind_reduce (loose : o'.level < Grammar.leastLevel o.level) :
    unwind ((l, o) :: pending) e ((o', x) :: rest) = unwind pending (.binary l o e) ((o', x) :: rest) := by
  have stops := climb_stop o.rightLevel e o' x rest (by rwa [Grammar.rightLevel_eq])
  rw [unwind, stops]

/-- Precedence climbing takes an operator where shifting and reducing does. -/
theorem unwind_settle : unwind pending e ((o', x) :: rest) =
    unwind (((settle o' pending e).2, o') :: (settle o' pending e).1) (.name x) rest := by
  induction pending generalizing e with
  | nil => exact unwind_shift (Nat.not_lt_zero _)
  | cons operand pending ih =>
    obtain ⟨l, o⟩ := operand
    rw [settle]
    split
    · next loose => rw [unwind_reduce loose, ih]
    · next tight => exact unwind_shift tight

theorem unwind_end : unwind ((l, o) :: pending) e [] = unwind pending (.binary l o e) [] := by
  rw [unwind, climb_nil]

theorem unwind_done : unwind [] e [] = e := by rw [unwind, climb_nil]

theorem innermost_lt (pending : List (Expression × Operator)) : innermost pending < 13 := by
  cases pending with
  | nil => decide
  | cons operand _ => exact (Grammar.level_bounds operand.2).2

end Unwind
end Expression

namespace Parse

open Expression (innermost unwind)
open Grammar (StateId followers)
open Grammar.StateId (operand result)
open Parse.Frame (top reach)

/-! ### Trees of expressions -/

/-- A tree stands for an expression behind a space. -/
def Depicts (t : Tree) (e : Expression) : Prop := t.Shows space e.text fun field start => [e.view field start]

/-- A token behind a space. -/
structure Spells (l : Leaf) (symbol : Symbol) (text : List CodePoint) : Prop where
  symbol : l.symbol = symbol
  padding : l.padding = Extent.ofText space
  size : l.size = Extent.ofText text
  plain : l.extra = false
  present : l.isMissing = false

/-- The tree of a name, from its token up. -/
def nameTree (l : Leaf) : Tree :=
  Tree.ofChildren Symbol.expression 0
    [Tree.ofChildren Symbol.primaryExpression Production.name
      [Tree.ofChildren Symbol.variableName 0 [.leaf l] false] false] false

/-- The tree of two operands with an operator between them. -/
def binaryTree (left : Tree) (o : Leaf) (right : Tree) : Tree :=
  Tree.ofChildren Symbol.binaryExpression Production.binary [left, .leaf o, right] false

theorem depicts_name {l : Leaf} {x : Name} (spells : Spells l Symbol.word x.text) : Depicts (nameTree l) (.name x) := by
  have token : (Tree.leaf l).Shows space x.text fun _ _ => [] :=
    Tree.shows_hidden_leaf l spells.present spells.plain spells.padding spells.size
      (by rw [spells.symbol]; exact Grammar.not_isVisible _ (by decide))
  let name := Tree.ofChildren Symbol.variableName 0 [.leaf l] false
  have sound : name.Sound :=
    Tree.sound_ofChildren (by decide) (fun _ => Production.plain_zero) (by simpa using token.sound)
  have size : name.size = Extent.ofText x.text := by
    rw [Tree.ofChildren_size, Tree.totals, Extent.add_zero, token.size]
  -- The name is seen, but in the guise of a variable, and its token is not.
  have inside : ∀ before, Tree.viewsOf 0 0 none before [Tree.leaf l] = [] := by
    intro before
    rw [Tree.viewsOf_plain Production.plain_zero, Tree.row_cons, Tree.row_nil, token.shown]
    rfl
  have primary := Tree.shows_guise sound token.padding size inside (by decide)
    (Grammar.excerpt.hidden Symbol.primaryExpression (by decide)) Grammar.excerpt.name
  rw [Grammar.excerpt.nodeKind (Symbol.nameGuise, "variable") (by decide)] at primary
  exact primary.group (by decide) (Grammar.not_isVisible _ (by decide)) Production.plain_zero

theorem depicts_binary {left right : Tree} {op : Leaf} {e f : Expression} {o : Operator} (first : Depicts left e)
    (spells : Spells op o.symbol o.text) (second : Depicts right f) :
    Depicts (binaryTree left op right) (.binary e o f) := by
  have soundOp : (Tree.leaf op).Sound := .leaf spells.present
  have totalOp : (Tree.leaf op).total = Extent.ofText space + Extent.ofText o.text := by
    rw [Tree.total, Tree.padding, Tree.size, spells.padding, spells.size]
  have kind := Grammar.excerpt.nodeKind (Symbol.binaryExpression, "binary_expression") (by decide)
  have kindOp := Grammar.excerpt.nodeKind (Symbol.operatorGuise, "_operator") (by decide)
  have visible := Grammar.excerpt.isVisible Symbol.binaryExpression (by decide)
  have inside : ∀ t ∈ [left, .leaf op, right], t.Sound := by
    simpa using ⟨first.sound, soundOp, second.sound⟩
  have size : left.size + Tree.totals [.leaf op, right] = Extent.ofText (Expression.binary e o f).text := by
    rw [Tree.totals, Tree.totals_singleton, first.size, totalOp, second.total, Expression.text]
    simp only [Extent.ofText_append, Extent.add_assoc]
  -- The operator alone is given a guise, and each part is seen in the field of its place.
  have shown : ∀ before, Tree.viewsOf Production.binary 0 none before [left, .leaf op, right] =
      ((Expression.binary e o f).view none (before + Extent.ofText space)).children := by
    intro before
    obtain ⟨fields, aliases⟩ := Grammar.excerpt.binary
    have plainOp : (Tree.leaf op).extra = false := spells.plain
    have middle : before + left.total + Extent.ofText space =
        before + Extent.ofText space + Extent.ofText (e.text ++ space) := by
      rw [first.total, Extent.ofText_append]
      simp only [Extent.add_assoc]
    have behind : before + left.total + (Tree.leaf op).total + Extent.ofText space =
        before + Extent.ofText space + Extent.ofText (e.text ++ space) + Extent.ofText (o.text ++ space) := by
      rw [← middle, totalOp, Extent.ofText_append]
      simp only [Extent.add_assoc]
    simp only [Tree.viewsOf, Tree.fieldIn, first.plain, plainOp, second.plain, Bool.false_eq_true, if_false,
      Option.or_none, Nat.zero_add, Nat.reduceAdd, List.append_nil]
    rw [fields 0 (by decide), fields 1 (by decide), fields 2 (by decide), aliases 0 (by decide), aliases 1 (by decide),
      aliases 2 (by decide)]
    simp only [List.getD_cons_zero, List.getD_cons_succ]
    rw [first.shown, second.shown, behind, Tree.views, Option.isSome_some, Bool.true_or, if_pos rfl,
      Tree.node_sight soundOp plainOp, Option.getD_some, kindOp, Tree.padding, Tree.size, spells.padding, spells.size,
      middle]
    rfl
  have node := Tree.shows_node Symbol.binaryExpression Production.binary inside (by decide) visible
    first.padding size (fun start => ((Expression.binary e o f).view none start).children) shown
  rw [kind] at node
  exact node

/-! ### Operands on the stack -/

/-- The frames of operands that wait, on top of those of the tag. -/
inductive Waits (base : List Frame) : List (Expression × Operator) → List Frame → Prop where
  | none : Waits base [] base
  | behind {pending : List (Expression × Operator)} {frames : List Frame} {tree : Tree} {op : Leaf} {e : Expression}
      {o : Operator} (waits : Waits base pending frames) (depicts : Depicts tree e)
      (spells : Spells op o.symbol o.text) :
      Waits base ((e, o) :: pending) (⟨operand o.level, .leaf op⟩ :: ⟨result (innermost pending), tree⟩ :: frames)

section Stack

variable {base frames last : List Frame} {pending : List (Expression × Operator)} {tree : Tree} {e : Expression}
  {token symbol : Symbol} {n m production : Nat}

theorem Waits.top_eq (tag : top base = operand 0) (waits : Waits base pending frames) :
    top frames = operand (innermost pending) := by
  cases waits with
  | none => exact tag
  | behind => rfl

theorem Waits.length (waits : Waits base pending frames) : frames.length = base.length + 2 * pending.length := by
  induction waits with
  | none => rfl
  | behind _ _ _ ih =>
    simp only [List.length_cons, ih]
    omega

theorem Reduces.trans {middle : List Frame} (first : Reduces token n frames middle) (second : Reduces token m middle last) :
    Reduces token (n + m) frames last := by
  induction first with
  | none => rwa [Nat.zero_add]
  | reduce plain acts repeats _ ih =>
    rw [Nat.add_right_comm]
    exact .reduce plain acts repeats (ih second)

theorem Reduces.single (front back : List Frame) (plain : ∀ f ∈ front, f.tree.extra = false)
    (acts : Grammar.actions (top (front ++ back)) token = [.reduce symbol front.length production]) :
    Reduces token 1 (front ++ back)
      (⟨Grammar.next (top back) symbol, Tree.ofChildren symbol production (Frame.trees front) false⟩ :: back) :=
  .reduce plain acts (by simp) (.none _)

theorem Reduces.one {f : Frame} {state : StateId} (plain : f.tree.extra = false)
    (acts : Grammar.actions f.state token = [.reduce symbol 1 production])
    (goto : Grammar.next (top frames) symbol = state) :
    Reduces token 1 (f :: frames) (⟨state, Tree.ofChildren symbol production [f.tree] false⟩ :: frames) := by
  subst goto
  exact Reduces.single [f] frames (by simpa using plain) acts

theorem reduces_name {l : Leaf} {level : Nat} (follows : token ∈ followers) (here : top frames = operand level)
    (bound : level < 13) (plain : l.extra = false) :
    Reduces token 3 (⟨StateId.behindWord, .leaf l⟩ :: frames) (⟨result level, nameTree l⟩ :: frames) := by
  obtain ⟨word, name, primary⟩ := Grammar.excerpt.actions_name token follows
  obtain ⟨toName, toPrimary, toResult, _⟩ := Grammar.excerpt.next_operand level bound
  rw [← here] at toName toPrimary toResult
  -- The name and the operand are hidden steps on the way from the word to the expression.
  have first := Reduces.one (f := ⟨StateId.behindWord, .leaf l⟩) plain word toName
  have second := Reduces.one (f := ⟨StateId.behindName, Tree.ofChildren Symbol.variableName 0 [.leaf l] false⟩) rfl name
    toPrimary
  exact (first.trans second).trans (Reduces.one rfl primary toResult)

theorem reduces_binary {left right : Tree} {op : Leaf} {l r : Expression} {o : Operator}
    (tag : top base = operand 0) (waits : Waits base pending frames) (first : Depicts left l)
    (spells : Spells op o.symbol o.text) (second : Depicts right r)
    (acts : Grammar.actions (result o.level) token = [.reduce Symbol.binaryExpression 3 Production.binary]) :
    Reduces token 1
      (⟨result o.level, right⟩ :: ⟨operand o.level, .leaf op⟩ :: ⟨result (innermost pending), left⟩ :: frames)
      (⟨result (innermost pending), binaryTree left op right⟩ :: frames) := by
  obtain ⟨_, _, _, toResult⟩ := Grammar.excerpt.next_operand (innermost pending) (Expression.innermost_lt pending)
  have plain : ∀ f ∈ [⟨result o.level, right⟩, ⟨operand o.level, .leaf op⟩, ⟨result (innermost pending), left⟩],
      (Frame.tree f).extra = false := by
    simpa using ⟨second.plain, spells.plain, first.plain⟩
  have reduced := Reduces.single _ frames plain acts
  rw [waits.top_eq tag, toResult] at reduced
  exact reduced

/-- Before an operator is taken, the operands that wait for one that binds less tightly are put together. -/
theorem reduces_before (next : Operator) (tag : top base = operand 0) (waits : Waits base pending frames)
    (depicts : Depicts tree e) : ∃ k frames' tree', k ≤ pending.length ∧
      Waits base (Expression.settle next pending e).1 frames' ∧ Depicts tree' (Expression.settle next pending e).2 ∧
      Grammar.actions (result (innermost (Expression.settle next pending e).1)) next.symbol =
        [.shift (operand next.level)] ∧
      Reduces next.symbol k (⟨result (innermost pending), tree⟩ :: frames)
        (⟨result (innermost (Expression.settle next pending e).1), tree'⟩ :: frames') := by
  -- From the top of the stack down, as long as the next operator is too loose for the operand there.
  induction waits generalizing tree e with
  | none =>
    have acts := Grammar.excerpt.actions_result 0 (by decide) next next.mem_all
    have tight : ¬next.level < Grammar.leastLevel 0 := Nat.not_lt_zero _
    rw [if_neg tight] at acts
    exact ⟨0, base, tree, Nat.le_refl _, .none, depicts, acts, .none _⟩
  | @behind pending frames left op l o waits first spells ih =>
    have acts := Grammar.excerpt.actions_result o.level (Grammar.level_bounds o).2 next next.mem_all
    rw [Expression.settle]
    split
    · next loose =>
      rw [if_pos loose] at acts
      obtain ⟨k, frames', tree', few, waits', depicts', shifts, reduces⟩ := ih (depicts_binary first spells depicts)
      have bound : 1 + k ≤ ((l, o) :: pending).length := by
        rw [List.length_cons]
        omega
      have joined := reduces_binary tag waits first spells depicts acts
      exact ⟨1 + k, frames', tree', bound, waits', depicts', shifts, joined.trans reduces⟩
    · next tight =>
      -- The operator takes the operand on top, and those below it wait on.
      rw [if_neg tight] at acts
      exact ⟨0, _, tree, Nat.zero_le _, .behind waits first spells, depicts, acts, .none _⟩

theorem reduces_close (tag : top base = operand 0) (waits : Waits base pending frames) (depicts : Depicts tree e) :
    ∃ k tree', k ≤ pending.length ∧ Depicts tree' (unwind pending e []) ∧
      Reduces Symbol.expressionClose k (⟨result (innermost pending), tree⟩ :: frames) (⟨result 0, tree'⟩ :: base) := by
  induction waits generalizing tree e with
  | none =>
    refine ⟨0, tree, Nat.le_refl _, ?_, .none _⟩
    rwa [Expression.unwind_done]
  | @behind pending frames left op l o waits first spells ih =>
    have bounds := Grammar.level_bounds o
    have acts := Grammar.excerpt.close_result o.level bounds.2
    -- Behind an operator no level is 0, so the closing mark makes the operands one expression.
    rw [if_neg (by omega)] at acts
    obtain ⟨k, tree', few, depicts', reduces⟩ := ih (depicts_binary first spells depicts)
    refine ⟨1 + k, tree', ?_, ?_, ?_⟩
    · rw [List.length_cons]
      omega
    · rwa [Expression.unwind_end]
    · exact (reduces_binary tag waits first spells depicts acts).trans reduces

end Stack

/-! ### The tokens of an expression -/

/-- The leaf of the closing mark behind an expression. -/
def closeLeaf : Leaf :=
  ⟨Symbol.expressionClose, Extent.ofText space, Extent.ofText Template.expressionMarks.2, false, StateId.behindWord,
    .template Template.Context.inText.save true⟩

section Tokens

open Template.Context (inExpression inText)

variable {text rest : List CodePoint} {base frames : List Frame} {pending : List (Expression × Operator)}

theorem exists_word (x : Name) (unmarked : Unmarked text) (tag : top base = operand 0) (waits : Waits base pending frames)
    (reaches : Reaches text frames (space ++ (x.text ++ (space ++ rest)))) :
    ∃ l, Spells l Symbol.word x.text ∧ Reaches text (⟨StateId.behindWord, .leaf l⟩ :: frames) (space ++ rest) ∧
      ∀ n root, CourseFrom text n (⟨StateId.behindWord, .leaf l⟩ :: frames) inExpression root →
        CourseFrom text (n + 1) frames inExpression root := by
  let reserved := (Code.Keyword.read? (x.text ++ (space ++ rest))).isSome
  let l : Leaf := ⟨Symbol.word, Extent.ofText space, Extent.ofText x.text, false, top frames, .code reserved⟩
  have bound := Expression.innermost_lt pending
  have here := waits.top_eq tag
  obtain ⟨acts, noAs, noFrom⟩ := Grammar.excerpt.word_operand (innermost pending) bound
  rw [← here] at acts noAs noFrom
  have mode : Grammar.lexMode (top frames) = ⟨.any, 7⟩ := by rw [here, Grammar.excerpt.lexMode_operand _ bound]
  -- The template reader is asked first, and finds nothing that starts with a letter.
  have scanned : (inExpression.scan (Grammar.LexMode.accepts ⟨.any, 7⟩)
      (space ++ (x.text ++ (space ++ rest)))).token = none := by
    obtain ⟨a, others, written, letter, _⟩ := x.exists_cons
    rw [written]
    exact Template.Context.scan_word letter
  refine ⟨l, ⟨rfl, rfl, rfl, rfl, rfl⟩, reaches.push rfl rfl, ?_⟩
  intro n root more
  have symbol : ∀ s : Situation, s.state = top frames → (if Symbol.word = Symbol.word then
      s.wordSymbol x.text.length (x.text ++ (space ++ rest)) else (Symbol.word, false)) = (Symbol.word, reserved) := by
    intro s same
    rw [← same] at noAs noFrom
    rw [if_pos rfl]
    exact x.wordSymbol rest s noAs noFrom
  exact .code rfl reaches unmarked mode (by decide) scanned (x.read? rest) symbol x.text_ne_nil (.none _) (by omega) acts
    more

theorem accepts_behindWord : ∀ t, Grammar.LexMode.accepts ⟨.operator, 11⟩ t = true → t = .expressionClose := by
  intro t
  cases t <;> decide

/-- Behind an operand an operator is read, and another operand is to follow. -/
theorem exists_operator (o : Operator) {x : Name} {l : Leaf} (unmarked : Unmarked text) (tag : top base = operand 0)
    (waits : Waits base pending frames) (word : Spells l Symbol.word x.text)
    (reaches : Reaches text (⟨StateId.behindWord, .leaf l⟩ :: frames) (space ++ (o.text ++ (space ++ rest)))) :
    ∃ pending' frames', Waits base pending' frames' ∧ Reaches text frames' (space ++ rest) ∧
      (∀ y ops, unwind pending (.name x) ((o, y) :: ops) = unwind pending' (.name y) ops) ∧
      ∀ n root, CourseFrom text n frames' inExpression root →
        CourseFrom text (n + 1) (⟨StateId.behindWord, .leaf l⟩ :: frames) inExpression root := by
  have named := reduces_name (Grammar.symbol_mem_followers o) (waits.top_eq tag) (Expression.innermost_lt pending) word.plain
  obtain ⟨k, frames', tree', few, waits', depicts', acts, settled⟩ := reduces_before o tag waits (depicts_name word)
  have reduces := named.trans settled
  -- The operand on top now waits for the one that follows the operator.
  let op : Leaf := ⟨o.symbol, Extent.ofText space, Extent.ofText o.text, false, StateId.behindWord, .code (o == .within)⟩
  have spells : Spells op o.symbol o.text := ⟨rfl, rfl, rfl, rfl, rfl⟩
  have waits'' := waits'.behind depicts' spells
  refine ⟨_, _, waits'', reaches.push reduces.reach rfl, fun y ops => Expression.unwind_settle, ?_⟩
  intro n root more
  have scanned := Template.Context.scan_operator accepts_behindWord o rest
  -- The parser makes only so many reductions for one token: three for the name, and at most one for each operand that
  -- waits.
  have enough : 3 + k < 8 * ((frames.length + 1) + 64) := by
    have length := waits.length
    omega
  have symbol : ∀ s : Situation, s.state = StateId.behindWord →
      (if (if o = .within then Symbol.word else o.symbol) = Symbol.word then
        s.wordSymbol o.text.length (o.text ++ (space ++ rest))
        else (if o = .within then Symbol.word else o.symbol, false)) = (o.symbol, o == .within) := by
    intro s same
    by_cases within : o = .within
    · subst within
      rw [if_pos rfl, if_pos rfl]
      exact Operator.wordSymbol_within rest s (by rw [same, Grammar.excerpt.within_behindWord])
    · rw [if_neg within, if_neg o.symbol_ne_word, beq_false_of_ne within]
  exact .code rfl reaches unmarked Grammar.excerpt.lexMode_behindWord (by decide) scanned (o.read? rest) symbol
    o.text_ne_nil reduces enough acts more

theorem exists_close {x : Name} {l : Leaf} (unmarked : Unmarked text) (tag : top base = operand 0)
    (waits : Waits base pending frames) (word : Spells l Symbol.word x.text)
    (reaches : Reaches text (⟨StateId.behindWord, .leaf l⟩ :: frames) (space ++ (Template.expressionMarks.2 ++ rest))) :
    ∃ tree, Depicts tree (unwind pending (.name x) []) ∧
      Reaches text (⟨StateId.behindTag, .leaf closeLeaf⟩ ::
        ⟨StateId.behindExpressions, Tree.ofChildren Symbol.expressions 0 [tree] false⟩ :: base) rest ∧
      ∀ n root, CourseFrom text n (⟨StateId.behindTag, .leaf closeLeaf⟩ ::
          ⟨StateId.behindExpressions, Tree.ofChildren Symbol.expressions 0 [tree] false⟩ :: base) inText root →
        CourseFrom text (n + 1) (⟨StateId.behindWord, .leaf l⟩ :: frames) inExpression root := by
  have named := reduces_name (List.mem_cons_self ..) (waits.top_eq tag) (Expression.innermost_lt pending) word.plain
  obtain ⟨k, tree, few, depicts, settled⟩ := reduces_close tag waits (depicts_name word)
  have acts := Grammar.excerpt.close_result 0 (by decide)
  rw [if_pos rfl] at acts
  have goto : Grammar.next (top base) Symbol.expressions = StateId.behindExpressions := by
    rw [tag, Grammar.excerpt.next_markup.2.2.2]
  have reduces := (named.trans settled).trans (Reduces.one depicts.plain acts goto)
  refine ⟨tree, depicts, reaches.push reduces.reach rfl, ?_⟩
  intro n root more
  have accepted : Grammar.LexMode.accepts ⟨.operator, 11⟩ .expressionClose = true := by decide
  have scanned := Template.Context.scan_close rest accepted
  have enough : 3 + k + 1 < 8 * ((frames.length + 1) + 64) := by
    have length := waits.length
    omega
  -- Behind the closing mark the context is another one, so the mark is not taken for the token after it.
  have changed : inText.save ≠ inExpression.save := by decide
  exact .template rfl reaches unmarked Grammar.excerpt.lexMode_behindWord (by decide) scanned changed reduces enough
    Grammar.excerpt.actions_behindTag.2.1 more

/-- Behind an operand the rest of an expression is read, and what is on the stack in the end stands for the expression
that precedence climbing finds. -/
theorem exists_row (ops : List (Operator × Name)) {x : Name} {l : Leaf} (unmarked : Unmarked text)
    (tag : top base = operand 0) (waits : Waits base pending frames) (word : Spells l Symbol.word x.text)
    (reaches : Reaches text (⟨StateId.behindWord, .leaf l⟩ :: frames)
      (Expression.rowText ops ++ (space ++ (Template.expressionMarks.2 ++ rest)))) :
    ∃ tree, Depicts tree (unwind pending (.name x) ops) ∧
      Reaches text (⟨StateId.behindTag, .leaf closeLeaf⟩ ::
        ⟨StateId.behindExpressions, Tree.ofChildren Symbol.expressions 0 [tree] false⟩ :: base) rest ∧
      ∀ n root, CourseFrom text n (⟨StateId.behindTag, .leaf closeLeaf⟩ ::
          ⟨StateId.behindExpressions, Tree.ofChildren Symbol.expressions 0 [tree] false⟩ :: base) inText root →
        CourseFrom text (n + 1 + 2 * ops.length) (⟨StateId.behindWord, .leaf l⟩ :: frames) inExpression root := by
  -- What the operands that wait and the rest stand for does not change, though the stack does.
  induction ops generalizing pending frames x l with
  | nil => exact exists_close unmarked tag waits word reaches
  | cons operation ops ih =>
    obtain ⟨o, y⟩ := operation
    obtain ⟨behind, spaced⟩ := Expression.exists_space ops (Template.expressionMarks.2 ++ rest)
    rw [Expression.rowText_cons, spaced] at reaches
    obtain ⟨pending', frames', waits', reaches', unwound, operator⟩ := exists_operator o unmarked tag waits word reaches
    obtain ⟨l', word', reaches'', operand⟩ := exists_word y unmarked tag waits' reaches'
    rw [← spaced] at reaches''
    obtain ⟨tree, depicts, reaches''', others⟩ := ih waits' word' reaches''
    refine ⟨tree, by rwa [unwound], reaches''', ?_⟩
    intro n root more
    have all := operator _ root (operand _ root (others n root more))
    have length : n + 1 + 2 * ((o, y) :: ops).length = n + 1 + 2 * ops.length + 1 + 1 := by
      rw [List.length_cons]
      omega
    rwa [length]

end Tokens
end Parse
end Ucode

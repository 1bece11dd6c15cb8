import Ucode.Proofs.Grammar.Takes
import Ucode.Proofs.Tree.View
import Ucode.Tree.Balance

/-!
# Trees that follow the grammar

A tree is tidy if each node of it is over parts that its rule takes, as far as names have to do with it. A tree that the parser has
grown is tidy wherever it holds no error, and balancing keeps it so: a rotation only puts parts of a repetition in the place of
others that the rule takes just as well (`takes_of_isRepetition`).
-/
namespace Ucode

namespace Tree

/-! ### Rows of parts -/

/-- The symbols of the trees of a row that are no extras. -/
def partsOf (ts : List Tree) : List Symbol := (ts.filter (!·.extra)).map symbol

/-- Whether some trees can be the parts of a rule, from one part on. -/
def Composes (symbol : Symbol) (production : Nat) : Nat → List Tree → Prop
  | _, [] => True
  | part, t :: ts => (t.extra = false → Production.takes symbol production part t.symbol.role = true) ∧
      Composes symbol production (if t.extra then part else part + 1) ts

section Rows

variable {symbol : Symbol} {production part : Nat} {t u : Tree} {ts us : List Tree}

theorem partsOf_cons (t : Tree) (ts : List Tree) :
    partsOf (t :: ts) = if t.extra then partsOf ts else t.symbol :: partsOf ts := by
  rw [partsOf, List.filter_cons]
  cases t.extra <;> rfl

theorem composes_of_partsOf (taken : ∀ i (within : i < (partsOf ts).length),
    Production.takes symbol production (part + i) (partsOf ts)[i].role = true) : Composes symbol production part ts := by
  induction ts generalizing part with
  | nil => trivial
  | cons t ts ih =>
    rw [Composes]
    rw [partsOf_cons] at taken
    cases extra : t.extra with
    | true =>
      simp only [extra, if_true] at taken
      -- An extra is no part, so the next part has the same number.
      exact ⟨fun plain => absurd plain (by simp), by simpa using ih taken⟩
    | false =>
      simp only [extra, Bool.false_eq_true, if_false] at taken
      refine ⟨fun _ => taken 0 (Nat.succ_pos _), ih fun i within => ?_⟩
      have later := taken (i + 1) (Nat.succ_lt_succ within)
      rwa [List.getElem_cons_succ, show part + (i + 1) = part + 1 + i by omega] at later

theorem Composes.of_mem (composes : Composes symbol production part ts) (member : t ∈ ts) (plain : t.extra = false) :
    ∃ i, Production.takes symbol production i t.symbol.role = true := by
  induction ts generalizing part with
  | nil => cases member
  | cons u ts ih =>
    rcases List.mem_cons.mp member with rfl | later
    · exact ⟨part, composes.1 plain⟩
    · exact ih composes.2 later

/-- The first tree of a row can be exchanged for one that the rule takes as well. -/
theorem Composes.replaceFirst (composes : Composes symbol production part (t :: ts)) (plain : t.extra = false)
    (plain' : u.extra = false) (taken : Production.takes symbol production part t.symbol.role = true →
      Production.takes symbol production part u.symbol.role = true) : Composes symbol production part (u :: ts) := by
  obtain ⟨first, others⟩ := composes
  rw [plain] at others
  refine ⟨fun _ => taken (first plain), ?_⟩
  rwa [plain']

/-- So can the last one. -/
theorem Composes.replaceLast (composes : Composes symbol production part (ts ++ [t])) (plain : t.extra = false)
    (plain' : u.extra = false) (taken : ∀ part, Production.takes symbol production part t.symbol.role = true →
      Production.takes symbol production part u.symbol.role = true) : Composes symbol production part (ts ++ [u]) := by
  induction ts generalizing part with
  | nil => exact composes.replaceFirst plain plain' (taken part)
  | cons v ts ih => exact ⟨composes.1, ih composes.2⟩

theorem Composes.map (f : Tree → Tree) (same : ∀ t ∈ ts, (f t).symbol = t.symbol ∧ (f t).extra = t.extra)
    (composes : Composes symbol production part ts) : Composes symbol production part (ts.map f) := by
  induction ts generalizing part with
  | nil => trivial
  | cons t ts ih =>
    obtain ⟨⟨symbol_eq, extra_eq⟩, others⟩ := List.forall_mem_cons.mp same
    rw [List.map_cons, Composes, symbol_eq, extra_eq]
    exact ⟨composes.1, ih others composes.2⟩

end Rows

/-! ### Tidy trees -/

/-- Whether the last part of a repetition can be of a role. -/
def Ends (symbol : Symbol) (r : Role) : Prop := r = .plain ∨ r = .statement ∨ r = symbol.role

/-- What is asked of a node and the trees below it. -/
structure Follows (s : Summary) (ts : List Tree) : Prop where
  rule : Symbol.tokenCount ≤ s.symbol
  known : s.symbol < Symbol.ruleCount
  plain : s.extra = false
  composes : Composes s.symbol s.production 0 ts
  deep : s.repeatDepth ≠ 0 → s.symbol.isRepetition = true
  last : s.symbol.isRepetition = true → ∀ t ∈ ts.getLast?, t.extra = false ∧ Ends s.symbol t.symbol.role
  name : s.symbol.role = .name → ∃ l ∈ leavesOf ts, 0 < l.size.bytes
  /-- A node over some text reaches beyond the place where it starts. -/
  long : ∀ l ∈ leavesOf ts, 0 < l.size.bytes → 0 < s.padding.bytes + s.size.bytes

/-- The tree follows the grammar wherever names have to do with it. -/
inductive Tidy : Tree → Prop
  | leaf {l : Leaf} (known : l.symbol < Symbol.tokenCount ∨ l.symbol = Symbol.error)
      (word : l.symbol = Symbol.word → 0 < l.size.bytes) : Tidy (leaf l)
  | node {s : Summary} {ts : List Tree} (follows : Follows s ts) (inside : ∀ t ∈ ts, Tidy t) : Tidy (node s ts)

section Tidy

variable {symbol : Symbol} {production : Nat} {t : Tree} {ts : List Tree}

theorem Tidy.follows {s : Summary} (tidy : (Tree.node s ts).Tidy) : Follows s ts := by
  cases tidy with
  | node follows _ => exact follows

theorem Tidy.inside {s : Summary} (tidy : (Tree.node s ts).Tidy) : ∀ t ∈ ts, t.Tidy := by
  cases tidy with
  | node _ inside => exact inside

theorem Tidy.leaf_of_extra (tidy : t.Tidy) (extra : t.extra = true) : ∃ l, t = Tree.leaf l := by
  cases tidy with
  | leaf => exact ⟨_, rfl⟩
  | node follows => exact absurd (follows.plain.symm.trans extra) Bool.false_ne_true

theorem Tidy.bytes_pos (tidy : t.Tidy) : ∀ l ∈ t.leaves, 0 < l.size.bytes → 0 < t.total.bytes := by
  intro l member long
  cases tidy with
  | leaf =>
    rw [leaves_leaf, List.mem_singleton] at member
    subst member
    exact Nat.add_pos_right _ long
  | node follows => exact follows.long l (leaves_node _ _ ▸ member) long

theorem bytes_totals_pos (inside : ∀ t ∈ ts, t.Tidy) : ∀ l ∈ leavesOf ts, 0 < l.size.bytes → 0 < (totals ts).bytes := by
  intro l member long
  induction ts with
  | nil =>
    rw [leavesOf_nil] at member
    cases member
  | cons t ts ih =>
    obtain ⟨first, others⟩ := List.forall_mem_cons.mp inside
    rw [leavesOf_cons] at member
    rw [totals]
    rcases List.mem_append.mp member with here | later
    · exact Nat.add_pos_left (first.bytes_pos l here long) _
    · exact Nat.add_pos_right _ (ih others later)

theorem exists_leaf_of_word (tidy : t.Tidy) (word : t.symbol.role = .word) : ∃ l ∈ t.leaves, 0 < l.size.bytes := by
  cases tidy with
  | @leaf l known long =>
    refine ⟨l, by rw [leaves_leaf]; exact List.mem_singleton_self l, long ?_⟩
    rcases known with token | error
    · exact Symbol.roleTable.word _ token word
    · rw [Tree.symbol, error] at word
      exact absurd word (by decide)
  | node follows => exact absurd word (Symbol.roleTable.rule _ follows.known follows.rule)

theorem isRepetition_of_repetition (known : symbol < Symbol.ruleCount) (deep : repetition symbol ts ≠ 0) :
    symbol.isRepetition = true := by
  unfold repetition at deep
  split at deep
  · split_ifs at deep with continues
    · rw [(Symbol.sets_eq known).2, continues.1]
      rfl
    · exact absurd rfl deep
  · exact absurd rfl deep

/-- A node that is made of tidy trees is tidy, if its rule takes them. -/
theorem tidy_ofChildren (rule : Symbol.tokenCount ≤ symbol) (known : symbol < Symbol.ruleCount)
    (composes : Composes symbol production 0 ts) (inside : ∀ t ∈ ts, t.Tidy)
    (last : symbol.isRepetition = true → ∀ t ∈ ts.getLast?, t.extra = false ∧ Ends symbol t.symbol.role)
    (name : symbol.role = .name → ∃ t ∈ ts, t.extra = false) : (ofChildren symbol production ts false).Tidy := by
  refine .node ⟨rule, known, rfl, composes, isRepetition_of_repetition known, last, fun here => ?_, fun l member long => ?_⟩
    inside
  -- All that a name takes is a word, and a word is never empty.
  · obtain ⟨t, among, plain⟩ := name here
    obtain ⟨part, taken⟩ := composes.of_mem among plain
    obtain ⟨l, below, long⟩ := exists_leaf_of_word (inside t among) (Production.eq_word_of_takes here taken)
    refine ⟨l, ?_, long⟩
    obtain ⟨before, after, rfl⟩ := List.append_of_mem among
    rw [leavesOf_append, leavesOf_cons]
    exact List.mem_append_right _ (List.mem_append_left _ below)
  · have whole := bytes_totals_pos inside l member long
    rw [← total_ofChildren symbol production ts false] at whole
    exact whole

end Tidy

/-! ### Balancing -/

section Balance

variable {symbol : Symbol} {t : Tree}

theorem role_ne_name_of_isRepetition (known : symbol < Symbol.ruleCount) (repetition : symbol.isRepetition = true) :
    symbol.role ≠ .name := by
  rcases Symbol.roleTable.repetition symbol known repetition with own | own | own <;> rw [own] <;> decide

/-- A repetition takes what it can end with wherever it takes a part of its own. -/
theorem Ends.takes_eq {r : Role} (ends : Ends symbol r) (known : symbol < Symbol.ruleCount)
    (repetition : symbol.isRepetition = true) (production part : Nat) :
    Production.takes symbol production part r = Production.takes symbol production part symbol.role :=
  (Production.takes_of_isRepetition known repetition ends).trans
    (Production.takes_of_isRepetition known repetition (Or.inr (Or.inr rfl))).symm

theorem getLast?_cons_of_ne_nil {ts : List Tree} (proper : ts ≠ []) (t : Tree) : (t :: ts).getLast? = ts.getLast? := by
  obtain ⟨u, us, rfl⟩ := List.exists_cons_of_ne_nil proper
  exact List.getLast?_cons_cons

section Exchange

variable {s : Summary} {u : Tree} {ts us : List Tree}

/-- A node of a repetition with other trees below it that its rule takes. -/
theorem Follows.withChildren (follows : Follows s ts) (repetition : s.symbol.isRepetition = true)
    (composes : Composes s.symbol s.production 0 us) (inside : ∀ u ∈ us, u.Tidy)
    (last : ∀ u ∈ us.getLast?, u.extra = false ∧ Ends s.symbol u.symbol.role) : ((Tree.node s []).withChildren us).Tidy := by
  have tidy := tidy_ofChildren follows.rule follows.known composes inside (fun _ => last)
    fun here => absurd here (role_ne_name_of_isRepetition follows.known repetition)
  rwa [Tree.withChildren, Tree.extra, follows.plain]

/-- The same with another first tree, if that is not the last one as well. -/
theorem Follows.withFirst (follows : Follows s (t :: ts)) (repetition : s.symbol.isRepetition = true) (behind : ts ≠ [])
    (first : t.extra = false) (plain : u.extra = false)
    (taken : Production.takes s.symbol s.production 0 t.symbol.role = true →
      Production.takes s.symbol s.production 0 u.symbol.role = true)
    (tidy : u.Tidy) (inside : ∀ v ∈ ts, v.Tidy) : ((Tree.node s []).withChildren (u :: ts)).Tidy := by
  have last := follows.last repetition
  rw [getLast?_cons_of_ne_nil behind] at last
  refine follows.withChildren repetition (follows.composes.replaceFirst first plain taken)
    (List.forall_mem_cons.mpr ⟨tidy, inside⟩) ?_
  rwa [getLast?_cons_of_ne_nil behind]

/-- The same with another last tree, which has the symbol of the node. -/
theorem Follows.withLast (follows : Follows s (ts ++ [t])) (repetition : s.symbol.isRepetition = true)
    (plain : u.extra = false) (own : u.symbol = s.symbol) (tidy : u.Tidy) (inside : ∀ v ∈ ts, v.Tidy) :
    ((Tree.node s []).withChildren (ts ++ [u])).Tidy := by
  obtain ⟨first, ends⟩ := follows.last repetition t List.getLast?_concat
  refine follows.withChildren repetition (follows.composes.replaceLast first plain fun part taken => ?_) ?_ ?_
  · rwa [own, ← ends.takes_eq follows.known repetition]
  · exact List.forall_mem_append.mpr ⟨inside, List.forall_mem_singleton.mpr tidy⟩
  · intro v last
    rw [List.getLast?_concat, Option.mem_some_iff] at last
    subst last
    exact ⟨plain, Or.inr (Or.inr (congrArg Symbol.role own))⟩

end Exchange

/-- A rotation keeps a repetition tidy. -/
theorem Tidy.rotate (count : Nat) (tidy : t.Tidy) (repetition : symbol.isRepetition = true) (own : t.symbol = symbol) :
    (Tree.rotate symbol count t).Tidy ∧ (Tree.rotate symbol count t).symbol = symbol ∧
      (Tree.rotate symbol count t).extra = t.extra := by
  fun_induction Tree.rotate symbol count t with
  | case1 => exact ⟨tidy, own, rfl⟩
  | case2 => exact ⟨tidy, own, rfl⟩
  | case3 count s c g grandchildren childRest rest wide moved child grandchild ih =>
    simp only [not_or, Nat.not_lt, ne_eq, Decidable.not_not, List.isEmpty_iff] at wide
    obtain ⟨others, behind, two, sameC, sameG⟩ := wide
    have proper : grandchildren ≠ [] := by
      rintro rfl
      exact absurd two (by simp)
    obtain ⟨tidyC, tidyRest⟩ := List.forall_mem_cons.mp tidy.inside
    obtain ⟨tidyG, tidyChildren⟩ := List.forall_mem_cons.mp tidyC.inside
    have followsC := tidyC.follows
    have followsG := tidyG.follows
    have repeats {s' : Summary} (same : s'.symbol = symbol) : s'.symbol.isRepetition = true := same ▸ repetition
    obtain ⟨front, last, rfl⟩ : ∃ front last, grandchildren = front ++ [last] :=
      ⟨_, _, (List.dropLast_concat_getLast proper).symm⟩
    obtain ⟨tidyFront, tidyLast⟩ := List.forall_mem_append.mp tidyG.inside
    obtain ⟨plain, ends⟩ := followsG.last (repeats sameG) last List.getLast?_concat
    -- The grandchild ends with a part for which another one of the repetition can stand, so it can stand for one itself.
    have tidyChild : child.Tidy := by
      rw [sameG, ← sameC] at ends
      have moves : moved = [last] := by simp [moved]
      change ((Tree.node c []).withChildren (moved ++ childRest)).Tidy
      rw [moves]
      refine followsC.withFirst (repeats sameC) behind followsG.plain plain (fun taken => ?_)
        (tidyLast last List.mem_cons_self) tidyChildren
      rw [ends.takes_eq followsC.known (repeats sameC), congrArg Symbol.role (sameC.trans sameG.symm)]
      exact taken
    -- The grandchild ends with the child instead, and it is the one that is rotated on.
    have tidyGrandchild : grandchild.Tidy := by
      have plainChild : child.extra = false := followsC.plain
      have symbolChild : child.symbol = g.symbol := sameC.trans sameG.symm
      change ((Tree.node g []).withChildren ((front ++ [last]).dropLast ++ [child])).Tidy
      rw [List.dropLast_concat]
      exact followsG.withLast (repeats sameG) plainChild symbolChild tidyChild tidyFront
    obtain ⟨tidyR, symbolR, extraR⟩ := ih tidyGrandchild sameG
    -- On top only the first part has changed, and it still is of the repetition.
    refine ⟨tidy.follows.withFirst (repeats own) others followsC.plain (extraR.trans followsG.plain) (fun taken => ?_) tidyR
      tidyRest, own, rfl⟩
    rw [symbolR, ← sameC]
    exact taken
  | case4 => exact ⟨tidy, own, rfl⟩

theorem Tidy.rotateHalves (fuel count : Nat) (tidy : t.Tidy) (repetition : t.symbol.isRepetition = true) :
    (Tree.rotateHalves fuel count t).Tidy ∧ (Tree.rotateHalves fuel count t).symbol = t.symbol ∧
      (Tree.rotateHalves fuel count t).extra = t.extra := by
  induction fuel generalizing count t with
  | zero =>
    rw [Tree.rotateHalves]
    exact ⟨tidy, rfl, rfl⟩
  | succ fuel ih =>
    rw [Tree.rotateHalves]
    split
    · exact ⟨tidy, rfl, rfl⟩
    · obtain ⟨now, symbol_eq, extra_eq⟩ := tidy.rotate count repetition rfl
      obtain ⟨later, symbol_eq', extra_eq'⟩ := ih (count / 2) now ((congrArg Symbol.isRepetition symbol_eq).trans repetition)
      exact ⟨later, symbol_eq'.trans symbol_eq, extra_eq'.trans extra_eq⟩

theorem Tidy.flatten (tidy : t.Tidy) : t.flatten.Tidy ∧ t.flatten.symbol = t.symbol ∧ t.flatten.extra = t.extra := by
  unfold Tree.flatten
  split
  · exact ⟨tidy, rfl, rfl⟩
  · dsimp only
    split
    · exact ⟨tidy, rfl, rfl⟩
    · next deep =>
      refine tidy.rotateHalves _ _ ?_
      cases tidy with
      | leaf => exact absurd rfl deep
      | node follows => exact follows.deep deep

theorem Tidy.balanceTo (depth : Nat) (tidy : t.Tidy) :
    (Tree.balanceTo depth t).Tidy ∧ (Tree.balanceTo depth t).symbol = t.symbol ∧ (Tree.balanceTo depth t).extra = t.extra := by
  induction depth generalizing t with
  | zero =>
    rw [Tree.balanceTo]
    exact ⟨tidy, rfl, rfl⟩
  | succ depth ih =>
    obtain ⟨flat, symbol_eq, extra_eq⟩ := tidy.flatten
    rw [Tree.balanceTo, ← symbol_eq, ← extra_eq]
    -- What is asked of a node is told by the symbols of its parts, which stay, and by its leaves.
    generalize t.flatten = u at flat
    cases flat with
    | leaf known word => exact ⟨.leaf known word, rfl, rfl⟩
    | @node s ts follows inside =>
      have below : ∀ u ∈ ts, (Tree.balanceTo depth u).Tidy ∧ (Tree.balanceTo depth u).symbol = u.symbol ∧
          (Tree.balanceTo depth u).extra = u.extra := fun u member => ih (inside u member)
      -- Names and lengths are told by the leaves, which balancing keeps.
      have leaves : leavesOf (ts.map (Tree.balanceTo depth)) = leavesOf ts := by
        have whole := leaves_balanceTo
        clear follows inside below
        induction ts with
        | nil => rfl
        | cons t ts ih => rw [List.map_cons, leavesOf_cons, leavesOf_cons, whole, ih]
      refine ⟨.node { follows with composes := ?_, last := ?_, name := ?_, long := ?_ } ?_, rfl, rfl⟩
      · exact follows.composes.map _ fun u member => (below u member).2
      · intro repetition u last
        rw [List.getLast?_map] at last
        obtain ⟨v, before, rfl⟩ := Option.map_eq_some_iff.mp last
        obtain ⟨_, symbol_eq, extra_eq⟩ := below v (List.mem_of_getLast? before)
        rw [symbol_eq, extra_eq]
        exact follows.last repetition v before
      · rw [leaves]
        exact follows.name
      · rw [leaves]
        exact follows.long
      · intro u member
        obtain ⟨v, among, rfl⟩ := List.mem_map.mp member
        exact (below v among).1

theorem flatten_of_shallow (shallow : t.repeatDepth = 0) : t.flatten = t := by
  unfold Tree.flatten
  split
  · rfl
  · exact if_pos shallow

/-- Balancing only changes what is below a tree that continues no repetition. -/
theorem errorCost_balance (shallow : t.repeatDepth = 0) : t.balance.errorCost = t.errorCost := by
  cases t with
  | leaf l => rfl
  | node s ts =>
    rw [Tree.balance, count, Tree.balanceTo, flatten_of_shallow shallow]
    rfl

theorem Tidy.balance (tidy : t.Tidy) : t.balance.Tidy := (tidy.balanceTo t.count).1

end Balance
end Tree
end Ucode

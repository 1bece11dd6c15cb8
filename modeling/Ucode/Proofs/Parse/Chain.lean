import Ucode.Parse.Reduction

/-!
# A stack with a single version

As long as the table leaves one way to go on, the graph of the stack is a chain and everything that the parser does to it is
what it does to a list of frames. `Stack.Holds` says that a stack is such a list; pushing a tree and reducing by a rule
are then the operations on lists that one expects (`Holds.push`, `Holds.reduce`).
-/
namespace Ucode.Parse

open Grammar (StateId)

/-- A tree on the stack and the state behind it. -/
structure Frame where
  state : StateId
  tree : Tree

namespace Frame

/-- The state on top of some frames, the topmost frame first. -/
def top : List Frame → StateId
  | [] => StateId.start
  | f :: _ => f.state

/-- How far the trees of some frames reach. -/
def reach : List Frame → Extent
  | [] => Extent.zero
  | f :: below => reach below + f.tree.total

/-- How many of some frames hold a tree that is a part of a rule. -/
def parts (frames : List Frame) : Nat := frames.countP (fun f => !f.tree.extra)

/-- The trees of some frames in the order of the text. -/
def trees (frames : List Frame) : List Tree := (frames.map tree).reverse

end Frame

namespace Stack

open Parse.Frame (top reach parts)

/-- From a vertex one path leads down to the bottom of the stack, and these are the frames along it. -/
inductive Chain (s : Stack) : Nat → List Frame → Prop where
  | bottom (here : s.vertices[0]? = some ⟨StateId.start, Extent.zero, [], 0, 0⟩) : Chain s 0 []
  | frame {v below cost nodes : Nat} {f : Frame} {frames : List Frame} (chain : Chain s below frames)
      (lower : below < v)
      (here : s.vertices[v]? = some ⟨f.state, reach (f :: frames), [⟨below, some f.tree⟩], cost, nodes⟩) :
      Chain s v (f :: frames)

/-- There is one version, it goes on, and its stack is a chain. -/
structure Holds (s : Stack) (frames : List Frame) (context : Option Template.Snapshot) : Prop where
  single : ∃ version, s.versions = [version] ∧ version.status = .active ∧ version.context = context ∧
    s.Chain version.top frames

theorem initial_holds : initial.Holds [] none := ⟨_, rfl, rfl, rfl, .bottom rfl⟩

section Chains

variable {s s' : Stack} {v : Nat} {frames : List Frame}

theorem vertex_of_getElem? {x : Vertex} (here : s.vertices[v]? = some x) : s.vertex v = x := by
  rw [vertex, Array.getD_eq_getD_getElem?, here, Option.getD_some]

theorem Chain.vertex (chain : s.Chain v frames) :
    (s.vertex v).state = top frames ∧ (s.vertex v).place = reach frames := by
  cases chain with
  | bottom here =>
    rw [vertex_of_getElem? here]
    exact ⟨rfl, rfl⟩
  | frame _ _ here =>
    rw [vertex_of_getElem? here]
    exact ⟨rfl, rfl⟩

theorem Chain.links_nil (chain : s.Chain v []) : (s.vertex v).links = [] := by
  cases chain with
  | bottom here => rw [vertex_of_getElem? here]

theorem Chain.links_cons {f : Frame} (chain : s.Chain v (f :: frames)) :
    ∃ below, (s.vertex v).links = [⟨below, some f.tree⟩] ∧ s.Chain below frames := by
  cases chain with
  | @frame v below cost nodes f frames chain lower here =>
    rw [vertex_of_getElem? here]
    exact ⟨below, rfl, chain⟩

theorem Chain.length_lt (chain : s.Chain v frames) : frames.length ≤ v ∧ v < s.vertices.size := by
  induction chain with
  | bottom here => exact ⟨Nat.le_refl _, (Array.getElem?_eq_some_iff.mp here).1⟩
  | frame _ lower here ih =>
    refine ⟨?_, (Array.getElem?_eq_some_iff.mp here).1⟩
    rw [List.length_cons]
    omega

theorem Chain.mono (chain : s.Chain v frames)
    (kept : ∀ (i : Nat) (x : Vertex), s.vertices[i]? = some x → s'.vertices[i]? = some x) : s'.Chain v frames := by
  induction chain with
  | bottom here => exact .bottom (kept _ _ here)
  | frame _ lower here ih => exact .frame ih lower (kept _ _ here)

end Chains

/-! ### Putting a tree on the stack -/

section Push

variable {s : Stack} {frames : List Frame} {context : Option Template.Snapshot}

theorem vertices_push (s : Stack) (i : Nat) (t : Option Tree) (state : StateId) (j : Nat) (x : Vertex)
    (here : s.vertices[j]? = some x) : (s.push i t state).vertices[j]? = some x := by
  have within := (Array.getElem?_eq_some_iff.mp here).1
  unfold push
  rw [Array.getElem?_push, if_neg (Nat.ne_of_lt within), here]

theorem push_chain (i : Nat) (t : Tree) (state : StateId) (chain : s.Chain (s.version i).top frames) :
    (s.push i (some t) state).Chain s.vertices.size (⟨state, t⟩ :: frames) := by
  have here : (s.push i (some t) state).vertices[s.vertices.size]? =
      some ⟨state, reach (⟨state, t⟩ :: frames), [⟨(s.version i).top, some t⟩],
        (s.vertex (s.version i).top).errorCost + t.errorCost, (s.vertex (s.version i).top).nodes + nodesOf t⟩ := by
    rw [push, Array.getElem?_push_size, chain.vertex.2]
    rfl
  exact .frame (chain.mono (s.vertices_push i _ state)) chain.length_lt.2 here

theorem Holds.push (holds : s.Holds frames context) (t : Tree) (state : StateId) :
    (s.push 0 (some t) state).Holds (⟨state, t⟩ :: frames) context := by
  obtain ⟨version, single, active, same, chain⟩ := holds.single
  have here : s.version 0 = version := by rw [Stack.version, single]; rfl
  rw [← here] at chain
  refine ⟨⟨{ version with top := s.vertices.size }, ?_, active, same, s.push_chain 0 t state chain⟩⟩
  rw [Stack.push, single]
  rfl

theorem Holds.setContext (holds : s.Holds frames context) (context' : Option Template.Snapshot) :
    (s.setContext 0 context').Holds frames context' := by
  obtain ⟨version, single, active, _, chain⟩ := holds.single
  refine ⟨{ version with context := context' }, ?_, active, rfl, chain.mono (fun _ _ kept => kept)⟩
  rw [Stack.setContext, modifyVersion, single]
  rfl

end Push

/-! ### Taking trees off the stack -/

section Walk

variable {s : Stack} {context : Option Template.Snapshot} {v n : Nat}

/-- A walk down a chain that takes nothing before it has passed some frames takes the one path that has passed them. -/
theorem walkRounds_chain (front back : List Frame) (visit : Unit → Path → Unit × Visit) (fuel : Nat) (trees : List Tree)
    (k : Nat) (enough : front.length < fuel) (whole : k + parts front = n) (chain : s.Chain v (front ++ back))
    (passes : ∀ v f frames trees k, f :: frames <:+ front → k + parts (f :: frames) = n →
      s.Chain v (f :: frames ++ back) → visit () ⟨v, trees, k⟩ = ((), ⟨false, false⟩))
    (stops : ∀ v trees, s.Chain v back → ∃ stop, visit () ⟨v, trees, n⟩ = ((), ⟨true, stop⟩) ∧ (back = [] ∨ stop = true)) :
    ∃ u, s.Chain u back ∧
      s.walkRounds visit fuel () [] [⟨v, trees, k⟩] = ((), [⟨u, Frame.trees front ++ trees, n⟩]) := by
  -- Each round passes one frame, and there is a round for each of them.
  induction front generalizing v trees k fuel with
  | nil =>
    obtain ⟨fuel, rfl⟩ : ∃ m, fuel = m + 1 := ⟨fuel - 1, by simp at enough; omega⟩
    obtain rfl : k = n := by simpa [parts] using whole
    obtain ⟨stop, visited, ends⟩ := stops v trees chain
    refine ⟨v, chain, ?_⟩
    -- Where the walk stops it takes the path, and where the chain ends there is no link to go on with.
    have last : s.stepPath visit ⟨(), [], [], [], 1⟩ ⟨v, trees, k⟩ = ⟨(), [⟨v, trees, k⟩], [], [], 0⟩ := by
      unfold stepPath
      rw [visited]
      cases back with
      | nil => simp [Chain.links_nil (s := s) (v := v) chain]
      | cons f back =>
        obtain ⟨below, links, _⟩ := Chain.links_cons (s := s) (v := v) chain
        obtain rfl : stop = true := by simpa using ends
        simp [links]
    rw [walkRounds]
    · simp only [List.foldl_cons, List.foldl_nil, List.length_cons, List.length_nil, Nat.zero_add, last]
      cases fuel <;> rfl
    · simp
  | cons f front ih =>
    obtain ⟨fuel, rfl⟩ : ∃ m, fuel = m + 1 := ⟨fuel - 1, by simp at enough; omega⟩
    obtain ⟨below, links, rest⟩ := Chain.links_cons (s := s) (v := v) chain
    have visited := passes v f front trees k (List.suffix_refl _) whole chain
    -- An extra is passed like any other tree, but does not count.
    obtain ⟨k', along, whole'⟩ : ∃ k', (s.stepPath visit ⟨(), [], [], [], 1⟩ ⟨v, trees, k⟩ =
        ⟨(), [], [⟨below, f.tree :: trees, k'⟩], [], 1⟩) ∧ k' + parts front = n := by
      refine ⟨if f.tree.extra then k else k + 1, ?_, ?_⟩
      · unfold stepPath
        rw [visited]
        simp [links, Path.along]
      · rw [← whole]
        simp only [parts, List.countP_cons]
        cases f.tree.extra <;> simp; omega
    obtain ⟨u, found, walked⟩ := ih fuel (f.tree :: trees) k' (by simpa using enough) whole' rest
      fun v g frames trees k within => passes v g frames trees k (within.trans (List.suffix_cons f front))
    refine ⟨u, found, ?_⟩
    rw [walkRounds]
    · simp only [List.foldl_cons, List.foldl_nil, List.length_cons, List.length_nil, Nat.zero_add, along,
        List.reverse_nil, List.append_nil, List.reverse_cons, List.nil_append]
      rw [walked]
      simp [Frame.trees]
    · simp

theorem addSlices_single (s : Stack) (i : Nat) (p : Path) :
    s.addSlices i [p] =
      ({ s with versions := s.versions ++ [⟨p.vertex, none, (s.version i).nodesAtError, (s.version i).context, .active⟩] },
        [⟨s.size, p.trees⟩]) := by
  simp [addSlices, addSlice]

variable {frames front back : List Frame}

/-- Taking some of the trees of a chain off leaves the rest of it. -/
theorem pop_chain (s : Stack) (i : Nat) (plain : ∀ f ∈ front, f.tree.extra = false)
    (chain : s.Chain (s.version i).top (front ++ back)) :
    ∃ u, s.Chain u back ∧ s.pop i front.length =
      ({ s with versions := s.versions ++ [⟨u, none, (s.version i).nodesAtError, (s.version i).context, .active⟩] },
        [⟨s.size, Frame.trees front⟩]) := by
  have length := chain.length_lt
  rw [List.length_append] at length
  have allParts : ∀ frames : List Frame, frames <:+ front → parts frames = frames.length := fun frames within =>
    List.countP_eq_length.mpr fun f member => by simp [plain f (within.subset member)]
  -- The walk stops as soon as it has counted all trees of the front, which are no extras.
  obtain ⟨u, rest, walked⟩ := walkRounds_chain (n := front.length) front back
    (fun _ p => ((), ⟨p.count == front.length, p.count == front.length⟩)) (s.vertices.size + 1) [] 0 (by omega)
    (by rw [allParts front (List.suffix_refl _), Nat.zero_add]) chain
    (fun v f frames trees k within whole _ => by
      rw [allParts _ within, List.length_cons] at whole
      have : k ≠ front.length := by omega
      simp [this])
    (fun v trees _ => ⟨true, by simp, Or.inr rfl⟩)
  refine ⟨u, rest, ?_⟩
  rw [pop, walk, walked, addSlices_single, List.append_nil]

theorem popAll_chain (s : Stack) (i : Nat) (chain : s.Chain (s.version i).top frames) :
    ∃ u, s.popAll i =
      ({ s with versions := s.versions ++ [⟨u, none, (s.version i).nodesAtError, (s.version i).context, .active⟩] },
        [⟨s.size, Frame.trees frames⟩]) := by
  have length := chain.length_lt
  obtain ⟨u, _, walked⟩ := walkRounds_chain (n := parts frames) frames []
    (fun _ p => ((), ⟨(s.vertex p.vertex).links.isEmpty, false⟩)) (s.vertices.size + 1) [] 0 (by omega) (Nat.zero_add _)
    (by simpa using chain)
    (fun v f frames trees k _ _ chain => by
      obtain ⟨below, links, _⟩ := Chain.links_cons (s := s) (v := v) chain
      simp [links])
    (fun v trees chain => ⟨false, by simp [chain.links_nil], Or.inl rfl⟩)
  refine ⟨u, ?_⟩
  rw [popAll, walk, walked, addSlices_single, List.append_nil]

end Walk

/-! ### Reducing -/

section Reduce

variable {s : Stack} {context : Option Template.Snapshot} {front back : List Frame}

theorem splitExtras_plain (trees : List Tree) (plain : ∀ t ∈ trees, t.extra = false) :
    Tree.splitExtras trees = (trees, []) := by
  have none : trees.reverse.takeWhile Tree.extra = [] := by
    cases reversed : trees.reverse with
    | nil => rfl
    | cons t others =>
      have last : t ∈ trees := List.mem_reverse.mp (by rw [reversed]; exact .head _)
      rw [List.takeWhile_cons_of_neg (by simp [plain t last])]
  simp [Tree.splitExtras, none]

theorem plain_trees (plain : ∀ f ∈ front, f.tree.extra = false) : ∀ t ∈ Frame.trees front, t.extra = false := by
  intro t member
  obtain ⟨f, among, rfl⟩ := List.mem_map.mp (List.mem_reverse.mp member)
  exact plain f among

/-- The node of a rule is put on the second of two versions, which was left when its trees were taken off the first. -/
theorem reduceGroup_second (s : Stack) (r : Rule) (trees : List Tree) (plain : ∀ t ∈ trees, t.extra = false) :
    reduceGroup 0 r (s, 0) [⟨1, trees⟩] =
      (s.push 1 (some (Tree.ofChildren r.symbol r.production trees false)) (Grammar.next (s.state 1) r.symbol), 0) := by
  have few : ¬Session.maxVersions + Session.versionSlack < 1 := by decide
  have alone : (List.range 1).filter (· != 0) = [] := rfl
  simp only [reduceGroup, Nat.sub_zero, if_neg few, List.map_cons, List.map_nil, Rule.choose, List.foldl_nil, Rule.apply,
    splitExtras_plain trees plain, pushAll, alone, mergeFirst?, List.findSome?_nil]

/-- A reduction of the only version gives a second one, which then takes the place of the first. -/
theorem Holds.reduce (holds : s.Holds (front ++ back) context) (plain : ∀ f ∈ front, f.tree.extra = false)
    (symbol : Symbol) (production : Nat) :
    ∃ s', s.reduce 0 ⟨symbol, front.length, production⟩ = (s', some 1) ∧
      (s'.replace 1 0).Holds
        (⟨Grammar.next (top back) symbol, Tree.ofChildren symbol production (Frame.trees front) false⟩ :: back) context := by
  obtain ⟨version, single, active, same, chain⟩ := holds.single
  have here : s.version 0 = version := by rw [Stack.version, single]; rfl
  rw [← here] at chain
  obtain ⟨u, rest, popped⟩ := s.pop_chain 0 plain chain
  rw [here, single] at popped
  -- The first version stays as it was; a second one stands where the trees were taken off, and there the node is put.
  let left : Version := ⟨u, none, version.nodesAtError, version.context, .active⟩
  let both : Stack := { s with versions := [version, left] }
  have chain : both.Chain (both.version 1).top back := rest.mono (fun _ _ kept => kept)
  let node := Tree.ofChildren symbol production (Frame.trees front) false
  have reduced : s.reduce 0 ⟨symbol, front.length, production⟩ =
      (both.push 1 (some node) (Grammar.next (top back) symbol), some 1) := by
    have size : s.size = 1 := by rw [Stack.size, single]; rfl
    have state : both.state 1 = top back := chain.vertex.1
    have grouped : List.splitBy (fun a b : Slice => a.version == b.version) [⟨1, Frame.trees front⟩] =
      [[⟨1, Frame.trees front⟩]] := rfl
    have group := reduceGroup_second both ⟨symbol, front.length, production⟩ (Frame.trees front) (plain_trees plain)
    rw [Stack.reduce]
    simp only [popped, size, grouped, List.foldl_cons, List.foldl_nil]
    rw [show ({ s with versions := [version] ++ [left] } : Stack) = both from rfl, group, state]
    rfl
  refine ⟨_, reduced, { left with top := s.vertices.size, ancestors := none <|> version.ancestors }, rfl, rfl, same, ?_⟩
  exact (both.push_chain 1 node (Grammar.next (top back) symbol) chain).mono (fun _ _ kept => kept)

end Reduce
end Stack
end Ucode.Parse

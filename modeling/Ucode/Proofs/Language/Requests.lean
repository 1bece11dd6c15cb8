import Mathlib.Algebra.Group.Nat.Defs
import Mathlib.Data.List.Forall2
import Mathlib.Tactic.SplitIfs
import Ucode.Language.Loading

/-!
# Requests for languages

A process asks for the bundled language and for the languages of handles, in any order and as often as it likes. Once the
bundled language was loaded it is kept, and from then on what a request is answered depends on the request alone.
`LoadRequest.Answered` says what the answer is, case by case; a whole sequence of requests is answered one by one.
-/
namespace Ucode

/-- What a process asks for. -/
inductive LoadRequest where
  /-- The bundled language, which may be kept. -/
  | bundled
  /-- The language of a handle, which is checked each time. -/
  | handle (h : Handle)
  deriving DecidableEq, Repr

/-- Whether a language was loaded. -/
def Loading.Succeeds (l : Loading) : Prop := ∃ language, l.result = .ok language

namespace LoadRequest

/-- The handle that the language comes from. -/
def source : LoadRequest → Handle
  | bundled => .bundled
  | handle h => h

/-- What a request is answered, once the bundled language is kept. -/
inductive Answered : LoadRequest → Loading → Prop where
  | kept : Answered .bundled ⟨.ok .bundled, [⟨.trace, "reusing cached ucode grammar", []⟩]⟩
  | null {h : Handle} (nowhere : h.descriptor? = none) :
      Answered (.handle h) ⟨.error .nullHandle, [⟨.error, "ucode grammar handle is null", []⟩]⟩
  | rejected {h : Handle} {d : Descriptor} (described : h.descriptor? = some d)
      (foreign : d.version ≠ 13 ∧ d.version ≠ 14) :
      Answered (.handle h) ⟨.error (.incompatibleVersion d.version.toNat 13 14),
        [⟨.error, "tree-sitter runtime rejected the ucode grammar", [("version", d.version.toNat)]⟩]⟩
  | loaded {h : Handle} {d : Descriptor} {kinds : Nat} (described : h.descriptor? = some d)
      (usable : d.version = 13 ∨ d.version = 14) (wrapped : kinds = (d.symbols.toNat + d.aliases.toNat) % 2 ^ 32) :
      Answered (.handle h) ⟨.ok ⟨h, d.version.toNat, kinds, d.fields.toNat, d.states.toNat⟩,
        [⟨.debug, "loaded ucode grammar",
          [("version", d.version.toNat), ("node_kinds", kinds), ("fields", d.fields.toNat)]⟩]⟩

end LoadRequest

theorem Descriptor.isCompatible_iff (d : Descriptor) : d.isCompatible = true ↔ d.version = 13 ∨ d.version = 14 := by
  have thirteen : d.version = 13 ↔ d.version.toNat = 13 := UInt32.toNat_inj.symm
  have fourteen : d.version = 14 ↔ d.version.toNat = 14 := UInt32.toNat_inj.symm
  rw [isCompatible, Bool.and_eq_true, decide_eq_true_iff, decide_eq_true_iff, thirteen, fourteen, minVersion, maxVersion]
  omega

theorem Handle.load_answered (h : Handle) : LoadRequest.Answered (.handle h) h.load := by
  unfold load
  cases described : h.descriptor? with
  | none => exact .null described
  | some d =>
    dsimp only
    split_ifs with usable
    · exact .loaded described (d.isCompatible_iff.mp usable) (UInt32.toNat_add ..)
    · have foreign := mt d.isCompatible_iff.mpr usable
      exact .rejected described (not_or.mp foreign)

namespace LoadRequest.Answered

variable {request other : LoadRequest} {reply reply' : Loading} {a b : Language}

/-- The answer is a language exactly if the bundled one is asked for, or one whose version can be used. -/
theorem succeeds_iff (answered : Answered request reply) : reply.Succeeds ↔
    request = .bundled ∨ ∃ d, request.source.descriptor? = some d ∧ (d.version = 13 ∨ d.version = 14) := by
  cases answered with
  | kept => exact ⟨fun _ => Or.inl rfl, fun _ => ⟨_, rfl⟩⟩
  | null nowhere => simp [Loading.Succeeds, source, nowhere]
  | rejected described foreign => simp [Loading.Succeeds, source, described, foreign]
  | loaded described usable => simp [Loading.Succeeds, source, described, usable]

/-- One report goes with each answer, and its level tells what kind of answer it is. -/
theorem reports (answered : Answered request reply) : ∃ event, reply.events = [event] ∧
    (event.level = .error ↔ ¬reply.Succeeds) ∧ (event.level = .debug ↔ reply.Succeeds ∧ request ≠ .bundled) ∧
    (event.level = .trace ↔ request = .bundled) := by
  cases answered <;> exact ⟨_, rfl, by simp [Loading.Succeeds]⟩

theorem handle_eq (answered : Answered request reply) (result : reply.result = .ok a) :
    a.handle = request.source := by
  cases answered with
  | kept | loaded =>
    cases result
    rfl
  | null | rejected => cases result

theorem isSame_iff (first : Answered request reply) (second : Answered other reply') (left : reply.result = .ok a)
    (right : reply'.result = .ok b) : a.isSame b = true ↔ request.source = other.source := by
  rw [Language.isSame, beq_iff_eq, first.handle_eq left, second.handle_eq right]

end LoadRequest.Answered

namespace LoadCache

/-- Answers one request. -/
def answer (cache : LoadCache) : LoadRequest → LoadCache × Loading
  | .bundled => cache.load
  | .handle h => (cache, h.load)

/-- Answers requests one after the other. -/
def answers (cache : LoadCache) : List LoadRequest → List Loading
  | [] => []
  | request :: requests => (cache.answer request).2 :: (cache.answer request).1.answers requests

/-- What is kept behind the first load. -/
def loaded : LoadCache := empty.load.1

/-- The bundled language stays what is kept, and each request is answered from it. -/
theorem answer_loaded (request : LoadRequest) :
    (loaded.answer request).1 = loaded ∧ request.Answered (loaded.answer request).2 := by
  cases request with
  | bundled => exact ⟨rfl, .kept⟩
  | handle h => exact ⟨rfl, h.load_answered⟩

theorem answers_loaded (requests : List LoadRequest) :
    loaded.answers requests = requests.map (fun request => (loaded.answer request).2) := by
  induction requests with
  | nil => rfl
  | cons request requests ih =>
    obtain ⟨same, _⟩ := answer_loaded request
    rw [answers, same, ih, List.map_cons]

theorem answers_answered (requests : List LoadRequest) :
    List.Forall₂ LoadRequest.Answered requests (loaded.answers requests) := by
  rw [answers_loaded, List.forall₂_map_right_iff, List.forall₂_same]
  exact fun request _ => (answer_loaded request).2

/-- Once the bundled language was loaded, a sequence of requests is answered as each of them alone would be: with a language
exactly if there is one to be had, and with one report, whose level tells how it went. Languages are the same exactly if
they come from the same handle. -/
theorem answers_alone (requests : List LoadRequest) :
    let pairs := requests.zip (loaded.answers requests)
    loaded.answers requests = requests.flatMap (fun request => loaded.answers [request]) ∧
    List.Forall₂ LoadRequest.Answered requests (loaded.answers requests) ∧
    (∀ p ∈ pairs,
      (p.2.Succeeds ↔
        p.1 = .bundled ∨ ∃ d, p.1.source.descriptor? = some d ∧ (d.version = 13 ∨ d.version = 14)) ∧
      ∃ event, p.2.events = [event] ∧ (event.level = .error ↔ ¬p.2.Succeeds) ∧
        (event.level = .debug ↔ p.2.Succeeds ∧ p.1 ≠ .bundled) ∧ (event.level = .trace ↔ p.1 = .bundled)) ∧
    ∀ p ∈ pairs, ∀ q ∈ pairs, ∀ a b, p.2.result = .ok a → q.2.result = .ok b →
      (a.isSame b = true ↔ p.1.source = q.1.source) := by
  intro pairs
  have answered : ∀ p ∈ pairs, p.1.Answered p.2 :=
    fun _ member => (List.forall₂_iff_zip.mp (answers_answered requests)).2 member
  refine ⟨?_, answers_answered requests, ?_, ?_⟩
  -- Nothing but what is kept is carried from one request to the next, and that does not change.
  · simp only [answers_loaded, List.map_cons, List.map_nil]
    exact List.map_eq_flatMap
  · intro p member
    exact ⟨(answered p member).succeeds_iff, (answered p member).reports⟩
  · intro p first q second a b left right
    exact (answered p first).isSame_iff (answered q second) left right

/-- Two descriptors that say the same are two languages, also when a handle was refused between them. -/
theorem answers_alone_twins :
    let d : Descriptor := ⟨13, 4294967295, 3, 5, 7⟩
    let first : Language := ⟨.other 0 d, 13, 2, 7, 5⟩
    let second : Language := ⟨.other 1 d, 13, 2, 7, 5⟩
    (loaded.answers [.handle (.other 0 d), .handle .null, .bundled, .handle (.other 1 d)]).map (·.result.toOption) =
        [some first, none, some .bundled, some second] ∧
      (first.isSame second = true ↔ Handle.other 0 d = .other 1 d) := by
  have alone := (answers_alone [.handle (.other 0 ⟨13, 4294967295, 3, 5, 7⟩), .handle .null, .bundled,
    .handle (.other 1 ⟨13, 4294967295, 3, 5, 7⟩)]).2.2.2
  exact ⟨rfl, alone _ (.head _) _ (.tail _ (.tail _ (.tail _ (.head _)))) _ _ rfl rfl⟩

end LoadCache
end Ucode

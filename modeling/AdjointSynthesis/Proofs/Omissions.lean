import AdjointSynthesis.Proofs.Runs
import AdjointSynthesis.Proofs.Wrappers
import Mathlib.Data.Setoid.Basic

/-!
# Steps that fail

A step of a generator that fails is as good as not made: left out of a run, it is missed by nobody.
This does not hold because such a step changes nothing.  A report that fails keeps the definitions
of the shapes before the one that it fails at, and a unit that fails has run.

* `Generator.Interchangeable`: two generators that may keep different definitions, but only where
  these are the ones that would be written anew.
* `Interchangeable.step`: one step answers alike on both sides and leaves them interchangeable.
* `interchangeable_of_failure`: a failing step leaves a generator interchangeable with itself.
* `Independent`: the units of a run do not feel that steps before them failed.  What they share with
  each other is the state of the program, and a generator has no hold on that.
* `Interchangeable.afterAll` carries both through a run of which the failing steps are left out, and
  `transcript_without_failures` puts it together.  Units that share a flag show that it takes their
  independence.
-/

namespace AdjointSynthesis

variable {σ : Type}

/-- Whether an answer is a value and not a failure. -/
def Answer.isValue : Answer → Bool
  | .registered result => result.toBool
  | .one result => result.toBool
  | .all result => result.toBool
  | .reported result => result.toBool

/-- An answer that is no value is a failure. -/
lemma exists_error_of_toBool {α : Type} {result : Except Failure α}
    (h : result.toBool = false) : ∃ failure, result = .error failure := by
  cases result with
  | error failure => exact ⟨failure, rfl⟩
  | ok value => nomatch h

namespace Generator

/-- A registration fails only where there is no block to register. -/
lemma registering_eq_self_of_error {generator : Generator} {step : Logged Block} {failure : Failure}
    (h : (generator.registering step).2.result = .error failure) :
    (generator.registering step).1 = generator := by
  cases hstep : step.result with
  | error problem => rw [registering_of_error hstep]
  | ok block =>
    obtain ⟨registration, hregistration⟩ := generator.registry.exists_result_register block
    rw [registering_of_ok hstep] at h
    cases hregistration.symm.trans h

variable [Template.Runtime]

/-- A request for definitions that fails keeps nothing. -/
lemma artifacts_of_error {generator : Generator} {position : Int} {failure : Failure}
    (h : (generator.artifacts position).2.result = .error failure) :
    (generator.artifacts position).1 = generator := by
  unfold artifacts at h ⊢
  split at h
  · nomatch h
  · split at h
    · rfl
    · dsimp only at h ⊢
      split at h
      · rfl
      · next found hfound =>
        rw [hfound] at h
        nomatch h

/-! ## Interchangeable generators -/

/-- Two generators that differ at most in the definitions that they keep for positions which count
from the beginning, where both keep nothing but what they would write anew. -/
structure Interchangeable (generator other : Generator) : Prop where
  constants : generator.constants = other.constants
  settings : generator.settings = other.settings
  registry : generator.registry = other.registry
  faithful : generator.Faithful
  otherFaithful : other.Faithful
  written : ∀ position < 0, generator.written.lookup position = other.written.lookup position

namespace Interchangeable

variable {generator other third : Generator}

lemma refl (h : generator.Faithful) : Interchangeable generator generator :=
  ⟨rfl, rfl, rfl, h, h, fun _ _ => rfl⟩

lemma trans (h : Interchangeable generator other) (h' : Interchangeable other third) :
    Interchangeable generator third where
  constants := h.constants.trans h'.constants
  settings := h.settings.trans h'.settings
  registry := h.registry.trans h'.registry
  faithful := h.faithful
  otherFaithful := h'.otherFaithful
  written position hp := (h.written position hp).trans (h'.written position hp)

lemma written?_eq (h : Interchangeable generator other) : generator.written? = other.written? := by
  funext block
  rw [written?, written?, h.constants, h.settings]

/-- A registration reads nothing but the registry. -/
lemma result_registering (h : Interchangeable generator other) (step : Logged Block) :
    (generator.registering step).2.result = (other.registering step).2.result := by
  unfold Generator.registering
  split
  · rfl
  · simp only [Generator.register, h.registry]

lemma registering (h : Interchangeable generator other) (step : Logged Block) :
    Interchangeable (generator.registering step).1 (other.registering step).1 where
  constants := by unfold Generator.registering; split <;> exact h.constants
  settings := by unfold Generator.registering; split <;> exact h.settings
  registry := by
    unfold Generator.registering
    split
    · exact h.registry
    · simp only [Generator.register, h.registry]
  faithful := h.faithful.registering step
  otherFaithful := h.otherFaithful.registering step
  written := by unfold Generator.registering; split <;> exact h.written

/-- From the beginning, both sides hand out what they would write anew.  From the end, they keep
the same. -/
lemma result_artifacts (h : Interchangeable generator other) (position : Int) :
    (generator.artifacts position).2.result = (other.artifacts position).2.result := by
  by_cases hp : position < 0
  · unfold Generator.artifacts
    rw [h.written position hp, h.registry, h.constants, h.settings]
    split
    · rfl
    · split
      · rfl
      · dsimp only
        split <;> rfl
  · obtain ⟨n, rfl⟩ := Int.eq_ofNat_of_zero_le (show 0 ≤ position by omega)
    rw [h.faithful.result_artifacts, h.otherFaithful.result_artifacts, h.registry, h.written?_eq]

lemma artifacts (h : Interchangeable generator other) (position : Int) :
    Interchangeable (generator.artifacts position).1 (other.artifacts position).1 := by
  obtain ⟨hr, hc, hs⟩ := registry_artifacts generator position
  obtain ⟨hr', hc', hs'⟩ := registry_artifacts other position
  refine ⟨?_, ?_, ?_, h.faithful.artifacts position, h.otherFaithful.artifacts position, ?_⟩
  · rw [hc, hc', h.constants]
  · rw [hs, hs', h.settings]
  · rw [hr, hr', h.registry]
  · intro asked hasked
    by_cases heq : asked = position
    · rw [heq, lookup_written_artifacts_self, lookup_written_artifacts_self, h.result_artifacts]
    · rw [lookup_written_artifacts_of_ne generator heq, lookup_written_artifacts_of_ne other heq,
        h.written asked hasked]

lemma result_allArtifacts (h : Interchangeable generator other) :
    generator.allArtifacts.2.result = other.allArtifacts.2.result := by
  rw [h.faithful.result_allArtifacts, h.otherFaithful.result_allArtifacts, h.registry,
    h.written?_eq]

lemma result_report (h : Interchangeable generator other) :
    generator.report.2.result = other.report.2.result := by
  rw [report_eq, report_eq]
  exact congrArg (Except.map (List.flatMap Artifacts.report)) h.result_allArtifacts

end Interchangeable

/-- Whether all definitions could be written or not, nothing is left behind that could be told from
what was there. -/
lemma interchangeable_artifactsAt {generator : Generator} (h : generator.Faithful)
    (positions : List Nat) : Interchangeable (generator.artifactsAt positions).1 generator := by
  obtain ⟨hr, hc, hs⟩ := registry_artifactsAt generator positions
  exact ⟨hc, hs, hr, h.artifactsAt positions, h,
    fun _ hp => lookup_written_artifactsAt generator positions hp⟩

lemma interchangeable_report {generator : Generator} (h : generator.Faithful) :
    Interchangeable generator.report.1 generator := by
  rw [report_eq]
  exact interchangeable_artifactsAt h _

lemma Interchangeable.symm {generator other : Generator} (h : Interchangeable generator other) :
    Interchangeable other generator :=
  ⟨h.constants.symm, h.settings.symm, h.registry.symm, h.otherFaithful, h.faithful,
    fun position hp => (h.written position hp).symm⟩

lemma Interchangeable.artifactsAt {generator other : Generator}
    (h : Interchangeable generator other) (positions positions' : List Nat) :
    Interchangeable (generator.artifactsAt positions).1 (other.artifactsAt positions').1 :=
  ((interchangeable_artifactsAt h.faithful positions).trans h).trans
    (interchangeable_artifactsAt h.otherFaithful positions').symm

lemma Interchangeable.report {generator other : Generator} (h : Interchangeable generator other) :
    Interchangeable generator.report.1 other.report.1 := by
  rw [report_eq, report_eq]
  exact h.artifactsAt _ _

end Generator

/-! ## The program around a generator -/

namespace Request

/-- What a request runs of the program: its unit, if it has one. -/
def run (request : Request σ) (state : σ) : Except Failure Unit × σ :=
  match request with
  | extract wrapper _ _ => wrapper.run state
  | _ => (.ok (), state)

end Request

section Simulation

variable [Template.Runtime]

/-- The program goes on from the state that the unit of a request leaves. -/
lemma Request.state_step (request : Request σ) (generator : Generator) (state : σ) :
    (request.step generator state).1.2 = (request.run state).2 := by
  cases request with
  | extract wrapper scope fallback =>
    exact congrArg Prod.snd (wrapper.extract_eq scope fallback state)
  | addText source scope name => rfl
  | artifacts position => rfl
  | allArtifacts => rfl
  | report => rfl

open Generator

/-- **A step cannot tell interchangeable generators apart.**  Nor does it tell states of the program
apart in which its unit has the same outcome.  It leaves the generators interchangeable. -/
lemma Generator.Interchangeable.step {generator other : Generator}
    (h : Interchangeable generator other) (request : Request σ) {state state' : σ}
    (hrun : (request.run state).1 = (request.run state').1) :
    (request.step generator state).2 = (request.step other state').2 ∧
      Interchangeable (request.step generator state).1.1 (request.step other state').1.1 := by
  cases request with
  | addText source scope name =>
    exact ⟨congrArg Answer.registered (h.result_registering _), h.registering _⟩
  | extract wrapper scope fallback =>
    replace hrun : (wrapper.run state).1 = (wrapper.run state').1 := hrun
    have hblock : (wrapper.extract scope fallback state).1 =
        (wrapper.extract scope fallback state').1 := by
      rw [wrapper.extract_eq, wrapper.extract_eq, hrun]
    simp only [Request.step, Generator.extract, hblock]
    exact ⟨congrArg Answer.registered (h.result_registering _), h.registering _⟩
  | artifacts position => exact ⟨congrArg Answer.one (h.result_artifacts _), h.artifacts _⟩
  | allArtifacts => exact ⟨congrArg Answer.all h.result_allArtifacts, h.artifactsAt _ _⟩
  | report => exact ⟨congrArg Answer.reported h.result_report, h.report⟩

/-- **A step that fails leaves nothing to be told** in the generator. -/
lemma interchangeable_of_failure {generator : Generator} (h : generator.Faithful)
    {request : Request σ} {state : σ}
    (hfails : (request.step generator state).2.isValue = false) :
    Interchangeable (request.step generator state).1.1 generator := by
  -- only the requests for all definitions may keep something, and only where it cannot be seen
  have same {later : Generator} (heq : later = generator) : Interchangeable later generator :=
    heq ▸ .refl (heq ▸ h)
  cases request with
  | addText source scope name =>
    obtain ⟨failure, hf⟩ := exists_error_of_toBool hfails
    exact same (registering_eq_self_of_error hf)
  | extract wrapper scope fallback =>
    obtain ⟨failure, hf⟩ := exists_error_of_toBool hfails
    exact same (registering_eq_self_of_error hf)
  | artifacts position =>
    obtain ⟨failure, hf⟩ := exists_error_of_toBool hfails
    exact same (artifacts_of_error hf)
  | allArtifacts => exact interchangeable_artifactsAt h _
  | report => exact interchangeable_report h

/-! ## Independent units -/

/-- Whether a request goes its own way at some moment of a run, where some states of the program are
the same to all units. -/
structure Request.GoesAlone (request : Request σ) (same : Setoid σ) (now : Generator × σ) :
    Prop where
  /-- If it fails, it leaves the program in a state that is the same as before. -/
  of_failure : (request.step now.1 now.2).2.isValue = false → same.r now.2 (request.run now.2).2
  /-- If not, its unit has the same outcome in every state that is the same as this one, and leaves
  the program in states that are the same. -/
  of_value : (request.step now.1 now.2).2.isValue = true → ∀ state, same.r now.2 state →
    (request.run now.2).1 = (request.run state).1 ∧
      same.r (request.run now.2).2 (request.run state).2

/-- A unit that looks only at what is alike in states that are the same, and touches nothing of
it, goes its own way. -/
lemma Request.goesAlone_of_untouched {request : Request σ} {same : Setoid σ}
    (hlooks : ∀ state state', same.r state state' →
      (request.run state).1 = (request.run state').1)
    (htouches : ∀ state, same.r state (request.run state).2) (now : Generator × σ) :
    request.GoesAlone same now where
  of_failure _ := htouches now.2
  of_value _ state hsame := ⟨hlooks now.2 state hsame,
    same.trans (same.symm (htouches now.2)) (same.trans hsame (htouches state))⟩

/-- Whether the units of a run are independent: at every moment the request goes its own way. -/
def Independent (same : Setoid σ) (requests : List (Request σ)) (start : Generator × σ) : Prop :=
  ∀ before request behind, requests = before ++ request :: behind →
    request.GoesAlone same (afterAll before start)

lemma independent_of_goesAlone {same : Setoid σ} {requests : List (Request σ)}
    (h : ∀ request ∈ requests, ∀ now, request.GoesAlone same now) (start : Generator × σ) :
    Independent same requests start := by
  rintro before request behind rfl
  exact h request (by simp) _

lemma Independent.head {same : Setoid σ} {request : Request σ} {rest : List (Request σ)}
    {start : Generator × σ} (h : Independent same (request :: rest) start) :
    request.GoesAlone same start := h [] request rest rfl

lemma Independent.tail {same : Setoid σ} {request : Request σ} {rest : List (Request σ)}
    {start : Generator × σ} (h : Independent same (request :: rest) start) :
    Independent same rest (request.step start.1 start.2).1 := by
  rintro before other behind rfl
  exact h (request :: before) other behind rfl

/-! ## Runs -/

/-- The requests of a run that do not fail, with their answers. -/
def withoutFailures (requests : List (Request σ)) (start : Generator × σ) :
    List (Request σ × Answer) :=
  (transcript requests start).filter fun entry => entry.2.isValue

section
variable {request : Request σ} {start : Generator × σ}

lemma withoutFailures_cons_of_value (rest : List (Request σ))
    (h : (request.step start.1 start.2).2.isValue = true) :
    withoutFailures (request :: rest) start = (request, (request.step start.1 start.2).2) ::
      withoutFailures rest (request.step start.1 start.2).1 :=
  List.filter_cons_of_pos h

lemma withoutFailures_cons_of_failure (rest : List (Request σ))
    (h : (request.step start.1 start.2).2.isValue = false) :
    withoutFailures (request :: rest) start =
      withoutFailures rest (request.step start.1 start.2).1 :=
  List.filter_cons_of_neg (Bool.eq_false_iff.mp h)

end

/-- The requests that stay are answered as before, the generators stay interchangeable, and the
states of the program the same. -/
lemma Generator.Interchangeable.afterAll {same : Setoid σ} {requests : List (Request σ)}
    {start other : Generator × σ} (h : Interchangeable start.1 other.1)
    (hstate : same.r start.2 other.2) (hunits : Independent same requests start) :
    let kept := withoutFailures requests start
    transcript (kept.map Prod.fst) other = kept ∧
      Interchangeable (afterAll requests start).1 (afterAll (kept.map Prod.fst) other).1 ∧
      same.r (afterAll requests start).2 (afterAll (kept.map Prod.fst) other).2 := by
  induction requests generalizing start other with
  | nil => exact ⟨rfl, h, hstate⟩
  | cons request rest ih =>
    have hafter := request.state_step start.1 start.2
    cases hvalue : (request.step start.1 start.2).2.isValue with
    | true =>
      -- the request is made on both sides
      obtain ⟨hrun, hnext⟩ := hunits.head.of_value hvalue other.2 hstate
      obtain ⟨hanswer, hgenerators⟩ := h.step request hrun
      rw [← hafter, ← request.state_step other.1 other.2] at hnext
      obtain ⟨htranscript, hlast⟩ := ih hgenerators hnext hunits.tail
      rw [withoutFailures_cons_of_value rest hvalue]
      refine ⟨?_, hlast⟩
      rw [List.map_cons, transcript, htranscript, hanswer]
    | false =>
      -- the request is made on the left only
      have hnext := hunits.head.of_failure hvalue
      rw [← hafter] at hnext
      rw [withoutFailures_cons_of_failure rest hvalue]
      exact ih ((interchangeable_of_failure h.faithful hvalue).trans h)
        (same.trans (same.symm hnext) hstate) hunits.tail

/-- **Steps that fail leave no trace.**  A run of a new generator in which the units are independent
is repeated without the requests that failed: each request that is left is answered as it was, and
the shapes and their positions are the same in the end.  The generator itself may well keep other
definitions. -/
theorem transcript_without_failures (constants : List String) (settings : Settings) (state : σ)
    (requests : List (Request σ)) (same : Setoid σ)
    (hunits : Independent same requests (Generator.new constants settings, state)) :
    let fresh := (Generator.new constants settings, state)
    let kept := withoutFailures requests fresh
    transcript (kept.map Prod.fst) fresh = kept ∧
      (afterAll (kept.map Prod.fst) fresh).1.registry = (afterAll requests fresh).1.registry := by
  intro fresh kept
  have hself : Interchangeable fresh.1 fresh.1 := .refl (faithful_new constants settings)
  obtain ⟨htranscript, hlast, -⟩ := hself.afterAll (same.refl state) hunits
  exact ⟨htranscript, hlast.registry.symm⟩

end Simulation

section Programs

attribute [local instance] Template.Runtime.bare

/-- A unit of a program that has a count and a flag.  It raises the count by one and may set the
flag, and whether it fails depends on the flag alone. -/
def countingUnit (source : Except SourceProblem (List Char)) (outcome : Bool → Except Failure Unit)
    (flagAfter : Bool → Bool) : Wrapper (Nat × Bool) where
  name := some "g"
  shown := "<unit>"
  run state := (outcome state.2, state.1 + 1, flagAfter state.2)
  source := source

/-- The text of a unit. -/
def unitText : List Char := "def g():\n    a[0] = 1\n".toList

/-- What a unit that needs the flag comes to. -/
def needsFlag (flag : Bool) : Except Failure Unit :=
  if flag then .ok () else .error (.raised "RuntimeError" "flag not set")

/-- A run with a unit that raises and one that has no text.  Both count, and the unit behind them
looks at the flag. -/
def countingRun : List (Request (Nat × Bool)) :=
  [.extract (countingUnit (.ok unitText) (fun _ => .error (.raised "ValueError" "stop")) id)
      (.ofNames ["a"] .object) none,
    .extract (countingUnit (.error .unrecorded) (fun _ => .ok ()) id) (.ofNames ["a"] .object) none,
    .addText "a[0] =\n".toList (.ofNames ["a"] .object) (some "f"),
    .extract (countingUnit (.ok unitText) needsFlag id) (.ofNames ["a"] .object) none,
    .artifacts 7, .report]

/-- The units of this run look at the flag alone and leave it as it is, so they are independent. -/
theorem transcript_without_failures_of_counting :
    let fresh := (Generator.new [] .default, (0, true))
    let kept := withoutFailures countingRun fresh
    Independent (Setoid.ker Prod.snd) countingRun fresh ∧
      (transcript countingRun fresh).map (fun entry => entry.2.isValue) =
        [false, false, false, true, false, true] ∧
      transcript (kept.map Prod.fst) fresh = kept ∧
      (afterAll (kept.map Prod.fst) fresh).1.registry = (afterAll countingRun fresh).1.registry := by
  have hunits : Independent (Setoid.ker Prod.snd) countingRun (.new [] .default, (0, true)) := by
    refine independent_of_goesAlone (fun request hrequest => ?_) _
    simp only [countingRun, List.mem_cons, List.not_mem_nil, or_false] at hrequest
    rcases hrequest with rfl | rfl | rfl | rfl | rfl | rfl
    all_goals
      refine Request.goesAlone_of_untouched ?_ fun _ => rfl
      rintro ⟨_, flag⟩ ⟨_, _⟩ (rfl : flag = _)
      rfl
  exact ⟨hunits, by decide +kernel, transcript_without_failures [] .default _ countingRun _ hunits⟩

/-- A run with a unit that sets the flag and raises, and one that raises unless the flag is set. -/
def sharingRun : List (Request (Nat × Bool)) :=
  [.extract (countingUnit (.ok unitText) (fun _ => .error (.raised "ValueError" "stop"))
      fun _ => true) (.ofNames ["a"] .object) none,
    .extract (countingUnit (.ok unitText) needsFlag id) (.ofNames ["a"] .object) none]

/-- **Units that share a flag feel what failed.**  The second unit of the run yields a block, but
raises in the run from which the first one is left out. -/
theorem transcript_without_failures_ne_of_sharing :
    let fresh := (Generator.new [] .default, (0, false))
    let kept := withoutFailures sharingRun fresh
    transcript (kept.map Prod.fst) fresh ≠ kept ∧
      (afterAll (kept.map Prod.fst) fresh).1.registry ≠ (afterAll sharingRun fresh).1.registry := by
  intro fresh kept
  have hanswers : (transcript (kept.map Prod.fst) fresh).map (fun entry => entry.2.isValue) ≠
      kept.map fun entry => entry.2.isValue := by
    decide +kernel
  have hsizes : (afterAll (kept.map Prod.fst) fresh).1.registry.size ≠
      (afterAll sharingRun fresh).1.registry.size := by
    decide +kernel
  exact ⟨fun h => hanswers (congrArg _ h), fun h => hsizes (congrArg Registry.size h)⟩

-- the report fails at the second shape, and the definitions of the first are kept all the same
example :
    let fresh := (Generator.new [] .default, ())
    let requests : List (Request Unit) :=
      [.addText "a[0] = 1\n".toList (.ofNames ["a"] .object) (some "f"),
        .addText "b\n".toList (.ofNames ["b"] .object) (some "g"), .report]
    (transcript requests fresh).map (fun entry => entry.2.isValue) = [true, true, false] ∧
      (afterAll requests fresh).1.written.length = 1 := by
  decide +kernel

end Programs

end AdjointSynthesis

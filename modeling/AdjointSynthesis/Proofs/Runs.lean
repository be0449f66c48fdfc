import AdjointSynthesis.Generator
import Mathlib.Tactic.Common

/-!
# Runs of a generator

A run asks a generator for one thing after another: to register a block, or to write definitions.
Each request is answered, and the generator goes on whether the answer is a failure or not.

* `Generator.GrowsTo`: what a request may change.  Blocks are only ever put behind the others, and
  what a generator was made with stays.
* `Generator.Faithful`: the invariant of the definitions that are kept.  Those kept for a position
  that does not count from the end are those of the block there.  Nothing is said about positions
  that count from the end, for these denote other blocks as the registry grows.
* `Generator.lookup_written_artifacts_self`: for any position, what is kept is what was handed out.
* `afterAll_growsTo` and `afterAll_faithful` carry both through a whole run.
-/

namespace AdjointSynthesis

variable {σ : Type}

/-! ## Requests -/

/-- What may be asked of a generator. -/
inductive Request (σ : Type) where
  | addText (source : List Char) (scope : Scope) (name : Option String)
  | extract (wrapper : Wrapper σ) (scope : Scope) (fallback : Option (List Char))
  | artifacts (position : Int)
  | allArtifacts
  | report

/-- What a request is answered with. -/
inductive Answer where
  | registered (result : Except Failure Registry.Registration)
  | one (result : Except Failure Artifacts)
  | all (result : Except Failure (List Artifacts))
  | reported (result : Except Failure (List Char))

namespace Request

/-- Makes a request of a generator in a program with a state. -/
def step [Template.Runtime] (request : Request σ) (generator : Generator) (state : σ) :
    (Generator × σ) × Answer :=
  match request with
  | addText source scope name =>
    let (generator, step) := generator.addText source scope name
    ((generator, state), .registered step.result)
  | extract wrapper scope fallback =>
    let ((generator, step), state) := generator.extract wrapper scope fallback state
    ((generator, state), .registered step.result)
  | artifacts position =>
    let (generator, step) := generator.artifacts position
    ((generator, state), .one step.result)
  | allArtifacts =>
    let (generator, step) := generator.allArtifacts
    ((generator, state), .all step.result)
  | report =>
    let (generator, step) := generator.report
    ((generator, state), .reported step.result)

/-- Whether a request may register a block. -/
def registers : Request σ → Bool
  | addText _ _ _ => true
  | extract _ _ _ => true
  | _ => false

end Request

/-! ## Reports -/

/-- All that a report says of a shape. -/
def Artifacts.report (artifacts : Artifacts) : List Char := artifacts.writes.flatten

/-- The writes for some shapes put their reports behind what the stream held. -/
lemma foldl_writes (found : List Artifacts) (stream : List Char) :
    found.foldl (fun stream artifacts => artifacts.writes.foldl (· ++ ·) stream) stream =
      stream ++ found.flatMap Artifacts.report := by
  have hone (stream : List Char) (artifacts : Artifacts) :
      artifacts.writes.foldl (· ++ ·) stream = stream ++ artifacts.report := by
    simpa [Artifacts.report] using List.foldl_append_eq_append (f := id) (l := artifacts.writes)
  simp only [hone, List.foldl_append_eq_append, List.flatMap_def]

/-! ## What a request may change -/

/-- The registration of a block does not fail. -/
lemma Registry.exists_result_register (registry : Registry) (block : Block) :
    ∃ registration, (registry.register block).2.result = .ok registration := by
  unfold register
  split <;> exact ⟨_, rfl⟩

namespace Generator

/-- A generator with the same constants and settings that has all blocks of another, at the same
positions. -/
structure GrowsTo (generator later : Generator) : Prop where
  constants : later.constants = generator.constants
  settings : later.settings = generator.settings
  blocks : generator.registry.blocks <+: later.registry.blocks

lemma GrowsTo.refl (generator : Generator) : GrowsTo generator generator :=
  ⟨rfl, rfl, List.prefix_rfl⟩

lemma GrowsTo.trans {first second third : Generator} (h : GrowsTo first second)
    (h' : GrowsTo second third) : GrowsTo first third :=
  ⟨h'.constants.trans h.constants, h'.settings.trans h.settings, h.blocks.trans h'.blocks⟩

lemma blocks_register (registry : Registry) (block : Block) :
    registry.blocks <+: (registry.register block).1.blocks := by
  unfold Registry.register
  split
  · exact List.prefix_rfl
  · exact List.prefix_append _ _

section
variable {generator : Generator} {step : Logged Block}

/-- A block that a step yields is registered. -/
lemma registering_of_ok {block : Block} (h : step.result = .ok block) :
    generator.registering step = ((generator.register block).1,
      ⟨step.records ++ (generator.register block).2.records,
        (generator.register block).2.result⟩) := by
  simp only [registering, h]

/-- A step that fails has no block to register. -/
lemma registering_of_error {failure : Failure} (h : step.result = .error failure) :
    generator.registering step = (generator, ⟨step.records, .error failure⟩) := by
  simp only [registering, h]

end

lemma written_registering (generator : Generator) (step : Logged Block) :
    (generator.registering step).1.written = generator.written := by
  cases h : step.result with
  | error failure => rw [registering_of_error h]
  | ok block =>
    rw [registering_of_ok h]
    rfl

lemma growsTo_registering (generator : Generator) (step : Logged Block) :
    GrowsTo generator (generator.registering step).1 := by
  unfold registering
  split
  · exact .refl generator
  · exact ⟨rfl, rfl, blocks_register _ _⟩

lemma get_ofNat (registry : Registry) (n : Nat) :
    registry.get n =
      match registry.blocks[n]? with
      | some block => .ok block
      | none => .error .unknownShape := by
  have hn : ¬((n : Int) < 0) := by omega
  cases hat : registry.blocks[n]? <;> simp only [Registry.get, if_neg hn, Int.toNat_natCast, hat]

lemma filterMap_range_getElem? {α : Type} (items : List α) :
    ((List.range items.length).filterMap fun n => items[n]?) = items := by
  induction items with
  | nil => rfl
  | cons item rest ih =>
    rw [List.length_cons, List.range_succ_eq_map]
    simpa [List.filterMap_map, Function.comp_def] using ih

variable [Template.Runtime]

lemma registry_artifacts (generator : Generator) (position : Int) :
    (generator.artifacts position).1.registry = generator.registry ∧
      (generator.artifacts position).1.constants = generator.constants ∧
      (generator.artifacts position).1.settings = generator.settings := by
  unfold artifacts
  split
  · exact ⟨rfl, rfl, rfl⟩
  · split
    · exact ⟨rfl, rfl, rfl⟩
    · dsimp only
      split <;> exact ⟨rfl, rfl, rfl⟩

lemma artifactsAt_cons (generator : Generator) (position : Nat) (rest : List Nat) :
    generator.artifactsAt (position :: rest) =
      let (later, step) := generator.artifacts position
      match step.result with
      | .error failure => (later, ⟨step.records, .error failure⟩)
      | .ok found =>
        ((later.artifactsAt rest).1,
          ⟨step.records ++ (later.artifactsAt rest).2.records,
            (later.artifactsAt rest).2.result.map (found :: ·)⟩) := rfl

lemma registry_artifactsAt (generator : Generator) (positions : List Nat) :
    (generator.artifactsAt positions).1.registry = generator.registry ∧
      (generator.artifactsAt positions).1.constants = generator.constants ∧
      (generator.artifactsAt positions).1.settings = generator.settings := by
  induction positions generalizing generator with
  | nil => exact ⟨rfl, rfl, rfl⟩
  | cons position rest ih =>
    obtain ⟨h₁, h₂, h₃⟩ := registry_artifacts generator position
    rw [artifactsAt_cons]
    dsimp only
    split
    · exact ⟨h₁, h₂, h₃⟩
    · obtain ⟨h₄, h₅, h₆⟩ := ih (generator.artifacts position).1
      exact ⟨h₄.trans h₁, h₅.trans h₂, h₆.trans h₃⟩

/-- What a report leaves in a stream is what all definitions make up. -/
lemma reportTo_eq_allArtifacts (generator : Generator) (stream : List Char) :
    generator.reportTo stream = {
      generator := generator.allArtifacts.1
      step := ⟨generator.allArtifacts.2.records, generator.allArtifacts.2.result.map fun _ => ()⟩
      stream := stream ++
        (generator.allArtifacts.2.result.map (List.flatMap Artifacts.report)).toOption.getD [] } := by
  rw [reportTo]
  dsimp only
  cases generator.allArtifacts.2.result with
  | error failure => simp [Except.map, Except.toOption]
  | ok found => simp [Except.map, Except.toOption, foldl_writes]

/-- The report on a stream of its own. -/
lemma report_eq (generator : Generator) : generator.report =
    (generator.allArtifacts.1, ⟨generator.allArtifacts.2.records,
      generator.allArtifacts.2.result.map (List.flatMap Artifacts.report)⟩) := by
  rw [report, reportTo_eq_allArtifacts]
  dsimp only
  cases generator.allArtifacts.2.result <;> rfl

lemma registry_report (generator : Generator) :
    generator.report.1.registry = generator.registry ∧
      generator.report.1.constants = generator.constants ∧
      generator.report.1.settings = generator.settings := by
  rw [report_eq]
  exact registry_artifactsAt generator _

/-! ## What is kept -/

/-- The definitions of a block by the constants and settings of a generator. -/
def written? (generator : Generator) (block : Block) : Except Failure Artifacts :=
  (synthesize block generator.constants generator.settings).result

/-- The definitions kept for a position that counts from the beginning are those of the block
there. -/
def Faithful (generator : Generator) : Prop :=
  ∀ (n : Nat) (found : Artifacts), generator.written.lookup (n : Int) = some found →
    ∃ block, generator.registry.blocks[n]? = some block ∧ generator.written? block = .ok found

lemma faithful_new (constants : List String) (settings : Settings) :
    (new constants settings).Faithful := by
  intro n found h
  simp [new] at h

/-- What is kept stays right while blocks are put behind the others. -/
lemma Faithful.of_growsTo {generator later : Generator} (h : generator.Faithful)
    (hg : GrowsTo generator later) (hw : later.written = generator.written) : later.Faithful := by
  intro n found hfound
  rw [hw] at hfound
  obtain ⟨block, hblock, hwritten⟩ := h n found hfound
  refine ⟨block, ?_, ?_⟩
  · obtain ⟨behind, hbehind⟩ := hg.blocks
    have hn : n < generator.registry.blocks.length := (List.getElem?_eq_some_iff.mp hblock).1
    rw [← hbehind, List.getElem?_append_left hn, hblock]
  · rw [written?, hg.constants, hg.settings]
    exact hwritten

lemma Faithful.registering {generator : Generator} (h : generator.Faithful) (step : Logged Block) :
    (generator.registering step).1.Faithful :=
  h.of_growsTo (growsTo_registering generator step) (written_registering generator step)

/-- Failures are not kept, and what is kept is kept under the position that was asked for. -/
lemma Faithful.artifacts {generator : Generator} (h : generator.Faithful) (position : Int) :
    (generator.artifacts position).1.Faithful := by
  unfold Generator.artifacts
  split
  · exact h
  · split
    · exact h
    · next block hblock =>
      dsimp only
      split
      · exact h
      · next found hfound =>
        intro n other hother
        rw [List.lookup_cons] at hother
        split at hother
        · next heq =>
          have hn : (n : Int) = position := by simpa using heq
          obtain rfl : found = other := by simpa using hother
          rw [← hn, get_ofNat] at hblock
          cases hat : generator.registry.blocks[n]? with
          | none => simp [hat] at hblock
          | some there =>
            obtain rfl : there = block := by simpa [hat] using hblock
            exact ⟨there, rfl, hfound⟩
        · exact h n other hother

lemma Faithful.artifactsAt {generator : Generator} (h : generator.Faithful)
    (positions : List Nat) : (generator.artifactsAt positions).1.Faithful := by
  induction positions generalizing generator with
  | nil => exact h
  | cons position rest ih =>
    rw [artifactsAt_cons]
    dsimp only
    split
    · exact h.artifacts position
    · exact ih (h.artifacts position)

lemma Faithful.report {generator : Generator} (h : generator.Faithful) :
    generator.report.1.Faithful := by
  rw [report_eq]
  exact h.artifactsAt _

/-- Definitions asked for at a position are those of the block there, kept or not. -/
lemma Faithful.result_artifacts {generator : Generator} (h : generator.Faithful) (n : Nat) :
    (generator.artifacts n).2.result =
      match generator.registry.blocks[n]? with
      | some block => generator.written? block
      | none => .error .unknownShape := by
  unfold Generator.artifacts
  split
  · next found hfound =>
    obtain ⟨block, hblock, hwritten⟩ := h n found hfound
    rw [hblock]
    exact hwritten.symm
  · rw [get_ofNat]
    cases hat : generator.registry.blocks[n]? with
    | none => rfl
    | some block =>
      dsimp only
      split
      · next failure hfailure => rfl
      · next found hfound => rfl

/-- Definitions asked for one after another are those of the blocks there, up to the first
failure. -/
lemma Faithful.result_artifactsAt {generator : Generator} (h : generator.Faithful)
    (positions : List Nat) (hp : ∀ n ∈ positions, n < generator.registry.blocks.length) :
    (generator.artifactsAt positions).2.result =
      (positions.filterMap fun n => generator.registry.blocks[n]?).mapM generator.written? := by
  induction positions generalizing generator with
  | nil => rfl
  | cons n rest ih =>
    have hn : n < generator.registry.blocks.length := hp n (List.mem_cons_self ..)
    have hat : generator.registry.blocks[n]? = some generator.registry.blocks[n] :=
      List.getElem?_eq_getElem hn
    have hone := h.result_artifacts n
    rw [hat] at hone
    obtain ⟨hreg, hconst, hset⟩ := registry_artifacts generator n
    have hsame : (generator.artifacts n).1.written? = generator.written? := by
      funext block
      rw [written?, written?, hconst, hset]
    have hrest := ih (h.artifacts n) fun m hm => by
      rw [hreg]
      exact hp m (List.mem_cons_of_mem _ hm)
    rw [hreg, hsame] at hrest
    rw [artifactsAt_cons, List.filterMap_cons_some hat, List.mapM_cons]
    dsimp only at hone ⊢
    rw [hone]
    cases hw : generator.written? generator.registry.blocks[n] with
    | error failure => rfl
    | ok found =>
      dsimp only
      rw [hrest]
      cases (rest.filterMap fun n => generator.registry.blocks[n]?).mapM generator.written? <;> rfl

/-- **The kept definitions cannot be seen.**  All definitions are those of the blocks, in order,
up to the first failure. -/
lemma Faithful.result_allArtifacts {generator : Generator} (h : generator.Faithful) :
    generator.allArtifacts.2.result =
      generator.registry.blocks.mapM generator.written? := by
  rw [allArtifacts, h.result_artifactsAt _ fun n hn => List.mem_range.mp hn,
    filterMap_range_getElem?]

/-- A report is made up of those on the blocks, in order, unless one of them fails. -/
lemma Faithful.result_report {generator : Generator} (h : generator.Faithful) :
    generator.report.2.result =
      (generator.registry.blocks.mapM generator.written?).map fun found =>
        found.flatMap Artifacts.report := by
  rw [report_eq, h.result_allArtifacts]

/-! ## Positions that count from the end -/

/-- A request for definitions concerns no other position. -/
lemma lookup_written_artifacts_of_ne (generator : Generator) {position other : Int}
    (h : other ≠ position) :
    (generator.artifacts position).1.written.lookup other = generator.written.lookup other := by
  unfold artifacts
  split
  · rfl
  · split
    · rfl
    · dsimp only
      split
      · rfl
      · rw [List.lookup_cons, beq_false_of_ne h]

/-- Definitions are kept under a position once they were asked for, unless that fails. -/
lemma lookup_written_artifacts_self (generator : Generator) (position : Int) :
    (generator.artifacts position).1.written.lookup position =
      (generator.artifacts position).2.result.toOption := by
  unfold artifacts
  split
  · next found hfound => exact hfound
  · next hnone =>
    split
    · exact hnone
    · dsimp only
      split
      · next failure hfailure =>
        rw [hnone, hfailure]
        rfl
      · next found hfound =>
        rw [List.lookup_cons, beq_self_eq_true, hfound]
        rfl

/-- All definitions are asked for under positions that count from the beginning. -/
lemma lookup_written_artifactsAt (generator : Generator) (positions : List Nat) {other : Int}
    (h : other < 0) :
    (generator.artifactsAt positions).1.written.lookup other = generator.written.lookup other := by
  induction positions generalizing generator with
  | nil => rfl
  | cons position rest ih =>
    have hone := generator.lookup_written_artifacts_of_ne (show other ≠ (position : Int) by omega)
    rw [artifactsAt_cons]
    dsimp only
    split
    · exact hone
    · exact (ih _).trans hone

lemma lookup_written_report (generator : Generator) {other : Int} (h : other < 0) :
    generator.report.1.written.lookup other = generator.written.lookup other := by
  rw [report_eq]
  exact generator.lookup_written_artifactsAt _ h

end Generator

/-! ## Runs -/

open Generator

variable [Template.Runtime]

/-- A generator and the state of its program after some requests. -/
def afterAll (requests : List (Request σ)) (start : Generator × σ) : Generator × σ :=
  requests.foldl (fun s request => (request.step s.1 s.2).1) start

@[simp] lemma afterAll_nil (start : Generator × σ) : afterAll [] start = start := rfl

@[simp] lemma afterAll_cons (request : Request σ) (rest : List (Request σ))
    (start : Generator × σ) :
    afterAll (request :: rest) start = afterAll rest (request.step start.1 start.2).1 := rfl

/-- The requests of a run with their answers. -/
def transcript : List (Request σ) → Generator × σ → List (Request σ × Answer)
  | [], _ => []
  | request :: rest, now =>
    (request, (request.step now.1 now.2).2) :: transcript rest (request.step now.1 now.2).1

/-- A request leaves behind a generator that has grown. -/
lemma Request.growsTo_step (request : Request σ) (generator : Generator) (state : σ) :
    GrowsTo generator (request.step generator state).1.1 := by
  have same {later : Generator} (h : later.registry = generator.registry ∧
      later.constants = generator.constants ∧ later.settings = generator.settings) :
      GrowsTo generator later := ⟨h.2.1, h.2.2, h.1 ▸ List.prefix_rfl⟩
  cases request with
  | addText source scope name => exact growsTo_registering generator _
  | extract wrapper scope fallback => exact growsTo_registering generator _
  | artifacts position => exact same (registry_artifacts generator position)
  | allArtifacts => exact same (registry_artifactsAt generator _)
  | report => exact same (registry_report generator)

/-- A request keeps the invariant, whether it fails or not. -/
lemma Request.faithful_step (request : Request σ) {generator : Generator} (h : generator.Faithful)
    (state : σ) : (request.step generator state).1.1.Faithful := by
  cases request with
  | addText source scope name => exact h.registering _
  | extract wrapper scope fallback => exact h.registering _
  | artifacts position => exact h.artifacts position
  | allArtifacts => exact h.artifactsAt _
  | report => exact h.report

lemma afterAll_growsTo (requests : List (Request σ)) (start : Generator × σ) :
    GrowsTo start.1 (afterAll requests start).1 := by
  induction requests generalizing start with
  | nil => exact .refl start.1
  | cons request rest ih =>
    exact (request.growsTo_step start.1 start.2).trans (ih (request.step start.1 start.2).1)

lemma afterAll_faithful (requests : List (Request σ)) {start : Generator × σ}
    (h : start.1.Faithful) : (afterAll requests start).1.Faithful := by
  induction requests generalizing start with
  | nil => exact h
  | cons request rest ih => exact ih (request.faithful_step h start.2)

end AdjointSynthesis

import AdjointSynthesis.Proofs.Runs
import Mathlib.Data.Finset.Dedup
import Mathlib.Data.List.Induction

/-!
# The shapes of a registry

A registry keeps its blocks in a list and finds their positions through a table of its own.  This
file follows both through a run of registrations and says what the run leaves behind, in terms of
the blocks that were registered and not of how they were looked up.

* `Block.shape`: the variables that a block sees, as a set.
* `firstOfEachShape`: the blocks of a sequence that have no block of their shape before them.
* `Registry.Holds`: the invariant.  After some blocks the list holds the first of each shape, and
  the table holds their positions.
* `Registry.Described` and `described_registerAll`: all that can be seen of a registry after a run.
* `registry_afterAll`: the registry of a generator is that of the blocks that its requests put up.
-/

namespace AdjointSynthesis

/-! ## Shapes as sets -/

lemma sameNames_iff (names others : List String) :
    sameNames names others = true ↔ names.toFinset = others.toFinset := by
  simp only [sameNames, Bool.and_eq_true, List.all_eq_true, List.contains_iff_mem, Finset.ext_iff,
    List.mem_toFinset]
  constructor
  · rintro ⟨h, h'⟩ name
    exact ⟨h name, h' name⟩
  · intro h
    exact ⟨fun name => (h name).mp, fun name => (h name).mpr⟩

/-- The variables that a block sees, in no order. -/
def Block.shape (block : Block) : Finset String := block.visible.toFinset

/-- Whether a block has another shape than all blocks seen before. -/
def Block.isNewTo (block : Block) (seen : List Block) : Bool :=
  seen.all fun other => decide (other.shape ≠ block.shape)

lemma Block.isNewTo_iff {block : Block} {seen : List Block} :
    block.isNewTo seen = true ↔ ∀ other ∈ seen, other.shape ≠ block.shape := by
  simp [Block.isNewTo]

/-- The blocks with no block of their shape before them. -/
def firstOfEachShape (blocks : List Block) : List Block :=
  (blocks.zipIdx.filter fun entry => entry.1.isNewTo (blocks.take entry.2)).map Prod.fst

section
variable (seen : List Block) (block : Block)

lemma firstOfEachShape_append_singleton : firstOfEachShape (seen ++ [block]) =
    firstOfEachShape seen ++ if block.isNewTo seen then [block] else [] := by
  have hold : seen.zipIdx.filter (fun entry => entry.1.isNewTo ((seen ++ [block]).take entry.2)) =
      seen.zipIdx.filter fun entry => entry.1.isNewTo (seen.take entry.2) := by
    refine List.filter_congr fun entry hentry => ?_
    have hlt : entry.2 < seen.length := by simpa using List.snd_lt_of_mem_zipIdx hentry
    rw [List.take_append_of_le_length hlt.le]
  rw [firstOfEachShape, List.zipIdx_append, List.filter_append, List.map_append, hold,
    firstOfEachShape]
  congr 1
  by_cases hnew : block.isNewTo seen <;> simp [hnew]

/-- Every shape has a first block. -/
lemma exists_mem_firstOfEachShape (shape : Finset String) :
    (∃ other ∈ firstOfEachShape seen, other.shape = shape) ↔
      ∃ other ∈ seen, other.shape = shape := by
  induction seen using List.reverseRecOn with
  | nil => simp [firstOfEachShape]
  | append_singleton seen last ih =>
    rw [firstOfEachShape_append_singleton]
    by_cases hnew : last.isNewTo seen
    · simp [hnew, or_and_right, exists_or, ih]
    · have hknown : last.shape = shape → ∃ other ∈ seen, other.shape = shape := by
        rintro rfl
        simpa [Block.isNewTo] using hnew
      simp only [hnew, Bool.false_eq_true, if_false, List.append_nil, ih, List.mem_append,
        List.mem_singleton, or_and_right, exists_or, exists_eq_left]
      exact ⟨.inl, fun h => h.elim id hknown⟩

lemma nodup_shape_firstOfEachShape : ((firstOfEachShape seen).map Block.shape).Nodup := by
  induction seen using List.reverseRecOn with
  | nil => simp [firstOfEachShape]
  | append_singleton seen last ih =>
    rw [firstOfEachShape_append_singleton]
    by_cases hnew : last.isNewTo seen
    · have hfresh : ¬ ∃ other ∈ firstOfEachShape seen, other.shape = last.shape := by
        rw [exists_mem_firstOfEachShape]
        rintro ⟨other, hother, heq⟩
        exact Block.isNewTo_iff.mp hnew other hother heq
      rw [if_pos hnew, List.map_append, List.map_singleton, List.nodup_append]
      refine ⟨ih, List.nodup_singleton _, ?_⟩
      rintro shape hshape _ hlast rfl
      obtain ⟨other, hother, rfl⟩ := List.mem_map.mp hshape
      exact hfresh ⟨other, hother, List.mem_singleton.mp hlast⟩
    · simpa [hnew] using ih

end

namespace Registry

/-! ## Looking a shape up -/

/-- The table of positions holds the position of each block under the variables it sees, and
nothing else. -/
def Indexed (registry : Registry) : Prop :=
  registry.positions = registry.blocks.zipIdx.map fun entry => (entry.1.visible, entry.2)

/-- Looking a shape up in the table is looking for it among the blocks. -/
lemma Indexed.position?_eq {registry : Registry} (h : registry.Indexed) (names : List String) :
    registry.position? names =
      registry.blocks.findIdx? fun block => decide (block.shape = names.toFinset) := by
  have htest (block : Block) : sameNames block.visible names =
      decide (block.shape = names.toFinset) := by
    rw [Bool.eq_iff_iff, sameNames_iff, decide_eq_true_eq, Block.shape]
  rw [position?, h, List.findIdx?_eq_fst_find?_zipIdx, List.find?_map, Option.map_map]
  simp only [Function.comp_def, htest]

lemma Indexed.push {registry : Registry} (h : registry.Indexed) (block : Block) :
    (registry.push block).Indexed := by
  simp only [Indexed, Registry.push] at h ⊢
  simp [h, List.zipIdx_append]

/-! ## Runs -/

/-- What a registry holds after some blocks were registered. -/
structure Holds (registry : Registry) (seen : List Block) : Prop where
  blocks : registry.blocks = firstOfEachShape seen
  indexed : registry.Indexed

lemma holds_empty : empty.Holds [] := ⟨rfl, rfl⟩

/-- A shape is found at the position of the first block that has it. -/
lemma Holds.position?_eq_some_iff {registry : Registry} {seen : List Block}
    (h : registry.Holds seen) {names : List String} {n : Nat} :
    registry.position? names = some n ↔
      ∃ block, registry.blocks[n]? = some block ∧ block.shape = names.toFinset := by
  rw [h.indexed.position?_eq, List.findIdx?_eq_some_iff_getElem]
  constructor
  · rintro ⟨hn, hshape, -⟩
    exact ⟨_, List.getElem?_eq_getElem hn, of_decide_eq_true hshape⟩
  · rintro ⟨block, hblock, hshape⟩
    obtain ⟨hn, rfl⟩ := List.getElem?_eq_some_iff.mp hblock
    refine ⟨hn, decide_eq_true hshape, fun m hm heq => ?_⟩
    have hnodup : (registry.blocks.map Block.shape).Nodup :=
      h.blocks ▸ nodup_shape_firstOfEachShape seen
    have hsame : (registry.blocks.map Block.shape)[m]? = (registry.blocks.map Block.shape)[n]? := by
      rw [List.getElem?_map, List.getElem?_map, List.getElem?_eq_getElem (hm.trans hn),
        List.getElem?_eq_getElem hn, Option.map_some, Option.map_some, of_decide_eq_true heq, hshape]
    exact hm.ne ((List.getElem?_inj (by simpa using hm.trans hn) hnodup).mp hsame)

/-- A shape is found exactly when one of the blocks had it. -/
lemma Holds.isSome_position?_iff {registry : Registry} {seen : List Block}
    (h : registry.Holds seen) (names : List String) :
    (registry.position? names).isSome = true ↔
      ∃ other ∈ seen, other.shape = names.toFinset := by
  rw [← exists_mem_firstOfEachShape, ← h.blocks, h.indexed.position?_eq, List.findIdx?_isSome,
    List.any_eq_true]
  simp only [decide_eq_true_eq]

/-- A block of a known shape leaves the registry as it was. -/
lemma register_of_position? {registry : Registry} {block : Block} {n : Nat}
    (h : registry.position? block.visible = some n) :
    (registry.register block).1 = registry ∧
      (registry.register block).2.result = .ok ⟨false, n⟩ := by
  unfold register
  rw [h]
  exact ⟨rfl, rfl⟩

/-- A block of a new shape goes behind the others. -/
lemma register_of_position?_eq_none {registry : Registry} {block : Block}
    (h : registry.position? block.visible = none) :
    (registry.register block).1 = registry.push block ∧
      (registry.register block).2.result = .ok ⟨true, registry.blocks.length⟩ := by
  unfold register
  rw [h]
  exact ⟨rfl, rfl⟩

lemma getElem?_of_grows {blocks more : List Block} (h : blocks <+: more) {n : Nat} {block : Block}
    (hblock : blocks[n]? = some block) : more[n]? = some block := by
  obtain ⟨behind, rfl⟩ := h
  rw [List.getElem?_append_left (List.getElem?_eq_some_iff.mp hblock).1, hblock]

/-- A registration yields whether no block before has the shape, and the position of the first one
that has it. -/
def Yields (registry : Registry) (seen : List Block) (block : Block)
    (result : Except Failure Registration) : Prop :=
  ∃ position, result = .ok ⟨block.isNewTo seen, position⟩ ∧
    ∃ first, registry.blocks[position]? = some first ∧ first.shape = block.shape

lemma Yields.of_grows {registry later : Registry} {seen : List Block} {block : Block}
    {result : Except Failure Registration} (h : registry.Yields seen block result)
    (hgrows : registry.blocks <+: later.blocks) : later.Yields seen block result := by
  obtain ⟨position, hresult, first, hfirst, hshape⟩ := h
  exact ⟨position, hresult, first, getElem?_of_grows hgrows hfirst, hshape⟩

/-- One registration keeps the invariant and yields what it should. -/
lemma Holds.register {registry : Registry} {seen : List Block} (h : registry.Holds seen)
    (block : Block) : (registry.register block).1.Holds (seen ++ [block]) ∧
      (registry.register block).1.Yields seen block (registry.register block).2.result := by
  have hsome := h.isSome_position?_iff block.visible
  cases hposition : registry.position? block.visible with
  | some position =>
    obtain ⟨hregistry, hresult⟩ := register_of_position? hposition
    rw [hregistry, hresult]
    rw [hposition, Option.isSome_some, eq_self, true_iff] at hsome
    have hknown : block.isNewTo seen = false := by
      obtain ⟨other, hother, heq⟩ := hsome
      simp only [Block.isNewTo, List.all_eq_false]
      exact ⟨other, hother, by simpa using show other.shape = block.shape from heq⟩
    have hfirst : firstOfEachShape (seen ++ [block]) = firstOfEachShape seen := by
      rw [firstOfEachShape_append_singleton, hknown]
      simp
    refine ⟨⟨h.blocks.trans hfirst.symm, h.indexed⟩, position, ?_, ?_⟩
    · rw [hknown]
    · exact h.position?_eq_some_iff.mp hposition
  | none =>
    obtain ⟨hregistry, hresult⟩ := register_of_position?_eq_none hposition
    rw [hregistry, hresult]
    rw [hposition, Option.isSome_none] at hsome
    have hnew : block.isNewTo seen = true := by
      rw [Block.isNewTo_iff]
      intro other hother heq
      exact Bool.false_ne_true (hsome.mpr ⟨other, hother, heq⟩)
    have hfirst : firstOfEachShape (seen ++ [block]) = registry.blocks ++ [block] := by
      rw [firstOfEachShape_append_singleton, hnew, h.blocks]
      rfl
    refine ⟨⟨hfirst.symm, h.indexed.push block⟩, registry.blocks.length, ?_, block, ?_, rfl⟩
    · rw [hnew]
    · exact List.getElem?_concat_length

/-- Registers some blocks one after another, with what each registration yields. -/
def registerAll (registry : Registry) :
    List Block → Registry × List (Except Failure Registration)
  | [] => (registry, [])
  | block :: rest =>
    let (next, step) := registry.register block
    let (last, results) := next.registerAll rest
    (last, step.result :: results)

lemma registerAll_cons (registry : Registry) (block : Block) (rest : List Block) :
    registry.registerAll (block :: rest) =
      (((registry.register block).1.registerAll rest).1,
        (registry.register block).2.result :: ((registry.register block).1.registerAll rest).2) :=
  rfl

lemma length_registerAll (registry : Registry) (blocks : List Block) :
    (registry.registerAll blocks).2.length = blocks.length := by
  induction blocks generalizing registry with
  | nil => rfl
  | cons block rest ih => simp [registerAll_cons, ih]

lemma grows_registerAll (registry : Registry) (blocks : List Block) :
    registry.blocks <+: (registry.registerAll blocks).1.blocks := by
  induction blocks generalizing registry with
  | nil => exact List.prefix_rfl
  | cons block rest ih => exact (Generator.blocks_register registry block).trans (ih _)

/-- A whole run keeps the invariant, and each registration yields what it should. -/
lemma Holds.registerAll {registry : Registry} {seen : List Block} (h : registry.Holds seen)
    (blocks : List Block) : (registry.registerAll blocks).1.Holds (seen ++ blocks) ∧
      ∀ i block, blocks[i]? = some block → ∃ result,
        (registry.registerAll blocks).2[i]? = some result ∧
          (registry.registerAll blocks).1.Yields (seen ++ blocks.take i) block result := by
  induction blocks generalizing registry seen with
  | nil => exact ⟨by rwa [List.append_nil], by simp⟩
  | cons block rest ih =>
    obtain ⟨hnext, hyields⟩ := h.register block
    obtain ⟨hlast, hresults⟩ := ih hnext
    rw [registerAll_cons]
    refine ⟨by simpa using hlast, fun i other hother => ?_⟩
    cases i with
    | zero =>
      obtain rfl : block = other := by simpa using hother
      refine ⟨_, rfl, ?_⟩
      simpa using hyields.of_grows (grows_registerAll _ rest)
    | succ i =>
      obtain ⟨result, hresult, hlater⟩ := hresults i other (by simpa using hother)
      exact ⟨result, by simpa using hresult, by simpa using hlater⟩

/-- A run over known shapes changes nothing and finds their positions. -/
lemma registerAll_of_position? {registry : Registry} {blocks : List Block}
    {position : Block → Nat}
    (h : ∀ block ∈ blocks, registry.position? block.visible = some (position block)) :
    registry.registerAll blocks =
      (registry, blocks.map fun block => .ok ⟨false, position block⟩) := by
  induction blocks with
  | nil => rfl
  | cons block rest ih =>
    obtain ⟨hregistry, hresult⟩ := register_of_position? (h block List.mem_cons_self)
    rw [registerAll_cons, hregistry, hresult,
      ih fun other hother => h other (List.mem_cons_of_mem _ hother)]
    rfl

/-! ## What can be seen of a run -/

/-- What is seen of a registry to which some blocks were registered with some results. -/
structure Described (blocks : List Block) (registry : Registry)
    (results : List (Except Failure Registration)) : Prop where
  /-- The stored blocks are the first of each shape, in order. -/
  blocks_eq : registry.blocks = firstOfEachShape blocks
  /-- No two stored blocks have one shape. -/
  distinct : (registry.blocks.map Block.shape).Nodup
  /-- There is one result for each block. -/
  length_eq : results.length = blocks.length
  /-- A block is new when no block before it has its shape, and the position that it is given is
  where the first block of its shape is stored. -/
  results_eq : ∀ (i : Nat) (block : Block), blocks[i]? = some block → ∃ result,
    results[i]? = some result ∧ registry.Yields (blocks.take i) block result
  /-- The table of positions is the list of shapes read backwards, -/
  positions_eq : registry.positions = registry.variableSets.zipIdx
  /-- and looking up a shape inverts looking up a position. -/
  position_iff : ∀ names n, registry.position? names = some n ↔
    ∃ block, registry.blocks[n]? = some block ∧ block.shape = names.toFinset
  /-- What is found at a position that was handed out is found there ever after. -/
  get_later : ∀ (isNew : Bool) (n : Nat), Except.ok ⟨isNew, n⟩ ∈ results →
    ∃ block, registry.get n = .ok block ∧
      ∀ more, (registry.registerAll more).1.get n = .ok block
  contains_iff : ∀ block, registry.contains block = true ↔
    ∃ other ∈ blocks, other.shape = block.shape
  size_eq : registry.size = (firstOfEachShape blocks).length
  variableSets_eq : registry.variableSets = (firstOfEachShape blocks).map Block.visible
  functionNames_eq : registry.functionNames = (firstOfEachShape blocks).map Block.name
  get_iff : ∀ (n : Nat) block,
    registry.get n = .ok block ↔ (firstOfEachShape blocks)[n]? = some block
  /-- Registering everything again changes nothing and finds the same positions. -/
  again : registry.registerAll blocks =
    (registry, results.map fun result => result.map fun found => { found with isNew := false })

lemma get_eq_ok_iff (registry : Registry) (n : Nat) (block : Block) :
    registry.get n = .ok block ↔ registry.blocks[n]? = some block := by
  rw [Generator.get_ofNat]
  cases registry.blocks[n]? <;> simp

/-- **A registry keeps the first block of each shape**: after any run of registrations the list of
blocks, the table of positions, the results and all views are what the sequence of blocks says. -/
theorem described_registerAll (blocks : List Block) :
    Described blocks (empty.registerAll blocks).1 (empty.registerAll blocks).2 := by
  obtain ⟨hholds, hresults⟩ := holds_empty.registerAll blocks
  have hlength := length_registerAll empty blocks
  simp only [List.nil_append] at hholds hresults
  generalize (empty.registerAll blocks).1 = registry at *
  generalize (empty.registerAll blocks).2 = results at *
  refine {
    blocks_eq := hholds.blocks
    distinct := hholds.blocks ▸ nodup_shape_firstOfEachShape blocks
    length_eq := hlength
    results_eq := hresults
    positions_eq := ?_
    position_iff := fun names n => hholds.position?_eq_some_iff
    get_later := fun isNew n hmem => ?_
    contains_iff := fun block => hholds.isSome_position?_iff block.visible
    size_eq := congrArg List.length hholds.blocks
    variableSets_eq := congrArg (List.map Block.visible) hholds.blocks
    functionNames_eq := congrArg (List.map Block.name) hholds.blocks
    get_iff := fun n block => hholds.blocks ▸ registry.get_eq_ok_iff n block
    again := ?_ }
  · rw [hholds.indexed, variableSets, List.zipIdx_map]
    rfl
  · obtain ⟨i, hi⟩ := List.getElem?_of_mem hmem
    have hlt : i < blocks.length := hlength ▸ (List.getElem?_eq_some_iff.mp hi).1
    obtain ⟨_, hresult, position, rfl, first, hfirst, -⟩ :=
      hresults i blocks[i] (List.getElem?_eq_getElem hlt)
    obtain rfl : n = position := by
      rw [hi] at hresult
      simpa using (Registration.mk.inj (Except.ok.inj (Option.some.inj hresult))).2
    refine ⟨first, (registry.get_eq_ok_iff n first).mpr hfirst, fun more => ?_⟩
    exact (get_eq_ok_iff _ n first).mpr
      (getElem?_of_grows (grows_registerAll registry more) hfirst)
  · have hknown : ∀ block ∈ blocks, registry.position? block.visible =
        some ((registry.position? block.visible).getD 0) := by
      intro block hmem
      have hsome := (hholds.isSome_position?_iff block.visible).mpr ⟨block, hmem, rfl⟩
      obtain ⟨n, hn⟩ := Option.isSome_iff_exists.mp hsome
      rw [hn, Option.getD_some]
    rw [registerAll_of_position? hknown]
    refine congrArg (Prod.mk registry) (List.ext_getElem? fun i => ?_)
    rw [List.getElem?_map, List.getElem?_map]
    cases hblock : blocks[i]? with
    | none =>
      have hnone : results[i]? = none := by
        rw [List.getElem?_eq_none_iff] at hblock ⊢
        exact hlength ▸ hblock
      rw [hnone]
      rfl
    | some block =>
      obtain ⟨_, hresult, position, rfl, hfirst⟩ := hresults i block hblock
      have hposition : registry.position? block.visible = some position :=
        hholds.position?_eq_some_iff.mpr hfirst
      rw [hresult, Option.map_some, Option.map_some, hposition]
      rfl

end Registry

/-! ## The registry of a generator -/

section Runs

variable {σ : Type}

/-- The block that a request puts up for registration. -/
def Request.block? (request : Request σ) (state : σ) : Option Block :=
  match request with
  | addText source scope name => (Block.ofText source scope name).toOption
  | extract wrapper scope fallback => (wrapper.extract scope fallback state).1.result.toOption
  | _ => none

/-- What a registration yields, unless it fails. -/
def Answer.registration? : Answer → Option Registry.Registration
  | .registered result => result.toOption
  | _ => none

section
variable (generator : Generator) (step : Logged Block)

lemma Generator.registering_of_block {block : Block} (h : step.result.toOption = some block) :
    (generator.registering step).1.registry = (generator.registry.register block).1 ∧
      (generator.registering step).2.result = (generator.registry.register block).2.result := by
  cases hstep : step.result with
  | error failure =>
    rw [hstep] at h
    cases h
  | ok found =>
    rw [hstep] at h
    obtain rfl : found = block := Option.some.inj h
    rw [registering_of_ok hstep]
    exact ⟨rfl, rfl⟩

lemma Generator.registering_of_no_block (h : step.result.toOption = none) :
    (generator.registering step).1.registry = generator.registry ∧
      (generator.registering step).2.result.toOption = none := by
  cases hstep : step.result with
  | error failure =>
    rw [registering_of_error hstep]
    exact ⟨rfl, rfl⟩
  | ok found =>
    rw [hstep] at h
    cases h

end

variable [Template.Runtime]

/-- A request that puts a block up registers it. -/
lemma Request.step_of_block {request : Request σ} {state : σ} {block : Block}
    (h : request.block? state = some block) (generator : Generator) :
    (request.step generator state).1.1.registry = (generator.registry.register block).1 ∧
      (request.step generator state).2 =
        .registered (generator.registry.register block).2.result := by
  cases request with
  | addText source scope name =>
    obtain ⟨hregistry, hresult⟩ :=
      generator.registering_of_block (.lift (Block.ofText source scope name)) h
    exact ⟨hregistry, congrArg Answer.registered hresult⟩
  | extract wrapper scope fallback =>
    obtain ⟨hregistry, hresult⟩ :=
      generator.registering_of_block (wrapper.extract scope fallback state).1 h
    exact ⟨hregistry, congrArg Answer.registered hresult⟩
  | artifacts position => nomatch h
  | allArtifacts => nomatch h
  | report => nomatch h

/-- Any other request leaves the registry as it was, and its answer is no registration. -/
lemma Request.step_of_no_block {request : Request σ} {state : σ}
    (h : request.block? state = none) (generator : Generator) :
    (request.step generator state).1.1.registry = generator.registry ∧
      (request.step generator state).2.registration? = none := by
  cases request with
  | addText source scope name => exact generator.registering_of_no_block (.lift _) h
  | extract wrapper scope fallback => exact generator.registering_of_no_block _ h
  | artifacts position => exact ⟨(Generator.registry_artifacts generator position).1, rfl⟩
  | allArtifacts => exact ⟨(Generator.registry_artifactsAt generator _).1, rfl⟩
  | report => exact ⟨(Generator.registry_report generator).1, rfl⟩

/-- The blocks that a run puts up for registration, in order. -/
def blocksOf : List (Request σ) → Generator × σ → List Block
  | [], _ => []
  | request :: rest, now =>
    (request.block? now.2).toList ++ blocksOf rest (request.step now.1 now.2).1

/-- **The registry of a run is that of its blocks.**  A run of a generator leaves the registry that
comes of registering the blocks put up on the way, and the registrations that it is answered with
are those of these blocks: a registration fails exactly when it puts no block up. -/
theorem registry_afterAll (requests : List (Request σ)) (start : Generator × σ) :
    let registered := start.1.registry.registerAll (blocksOf requests start)
    (afterAll requests start).1.registry = registered.1 ∧
      ((transcript requests start).filterMap fun entry => entry.2.registration?).map .ok =
        registered.2 := by
  induction requests generalizing start with
  | nil => exact ⟨rfl, rfl⟩
  | cons request rest ih =>
    obtain ⟨hregistry, hresults⟩ := ih (request.step start.1 start.2).1
    rw [afterAll_cons, transcript, blocksOf, List.filterMap_cons]
    dsimp only
    cases hblock : request.block? start.2 with
    | none =>
      obtain ⟨hsame, hanswer⟩ := request.step_of_no_block hblock start.1
      rw [hsame] at hregistry hresults
      rw [hanswer]
      exact ⟨hregistry, hresults⟩
    | some block =>
      obtain ⟨hnext, hanswer⟩ := request.step_of_block hblock start.1
      rw [hnext] at hregistry hresults
      obtain ⟨registration, hregistration⟩ := start.1.registry.exists_result_register block
      rw [Option.toList_some, List.singleton_append, Registry.registerAll_cons, hanswer,
        hregistration]
      exact ⟨hregistry, congrArg (Except.ok registration :: ·) hresults⟩

/-- The blocks that a new generator holds after a run are the first of each shape. -/
theorem blocks_afterAll_new (constants : List String) (settings : Settings) (state : σ)
    (requests : List (Request σ)) :
    let fresh := (Generator.new constants settings, state)
    (afterAll requests fresh).1.registry.blocks = firstOfEachShape (blocksOf requests fresh) := by
  intro fresh
  rw [(registry_afterAll requests fresh).1]
  exact (Registry.holds_empty.registerAll _).1.blocks

end Runs

end AdjointSynthesis

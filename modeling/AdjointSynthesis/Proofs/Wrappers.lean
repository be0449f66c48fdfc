import AdjointSynthesis.Generator
import AdjointSynthesis.Proofs.Synthesis

/-!
# Wrappers and texts

A block may be taken from a wrapper or from a text.  Both ways agree: a wrapper yields the block of
the text that it is read from, which is its own text, or the one given beside it if that cannot be
recovered.  The wrapper runs once, before anything is read.

* `Block.ofText_none_eq_ok_iff`, `Block.ofText_eq_broken_iff`: what a text yields.
* `Wrapper.IsReadFrom`: the text that a wrapper is read from.
* `Wrapper.counted`: a wrapper that counts its runs.
* `Wrapper.AgreesWithText`: how an extraction relates to the blocks of texts, outcome by outcome.
* `Wrapper.agreesWithText`: every extraction does.
-/

namespace AdjointSynthesis

variable {σ : Type}

/-! ## Blocks from texts without a name -/

section
variable {text : List Char} {scope : Scope} {given : Option String} {block : Block}

/-- A text without a given name yields a block when it defines a function of an acceptable name. -/
lemma Block.ofText_none_eq_ok_iff :
    Block.ofText text scope none = .ok block ↔
      ∃ name body, Definition.ofText text = .ok ⟨some name, body⟩ ∧
        Text.isIdentifier name.toList = true ∧ block = ⟨body, name, scope, false⟩ := by
  rw [ofText_eq_ok_iff]
  constructor
  · rintro ⟨⟨_, body⟩, name, hdefinition, rfl, hidentifier, rfl⟩
    exact ⟨name, body, hdefinition, hidentifier, rfl⟩
  · rintro ⟨name, body, hdefinition, hidentifier, rfl⟩
    exact ⟨_, name, hdefinition, rfl, hidentifier, rfl⟩

/-- A text is no program exactly when it cannot be cut open. -/
lemma Block.ofText_eq_broken_iff {part : Part} {fault : Code.Fault} :
    Block.ofText text scope given = .error (.broken part fault) ↔
      Definition.ofText text = .error (.broken part fault) := by
  rw [ofText_eq_error_iff]
  refine or_iff_left ?_
  rintro ⟨_, -, ⟨-, h⟩ | ⟨_, -, -, h⟩⟩ <;> cases h

end

/-! ## The text that a wrapper is read from -/

namespace Wrapper

/-- The text that a wrapper is read from, and whether it stands in for another. -/
inductive IsReadFrom (wrapper : Wrapper σ) (fallback : Option (List Char)) :
    List Char → Bool → Prop where
  | recovered {text : List Char} (hsource : wrapper.source = .ok text) :
    IsReadFrom wrapper fallback text false
  | standIn {problem : SourceProblem} {text : List Char}
    (hsource : wrapper.source = .error problem) (hfallback : fallback = some text) :
    IsReadFrom wrapper fallback text true

variable {wrapper : Wrapper σ} {scope : Scope} {fallback : Option (List Char)} {text : List Char}
  {isDegraded : Bool}

lemma IsReadFrom.result_text (h : wrapper.IsReadFrom fallback text isDegraded) :
    (wrapper.text fallback).result = .ok (text, isDegraded) := by
  cases h with
  | recovered hsource =>
    simp only [Wrapper.text, hsource]
    rfl
  | standIn hsource hfallback =>
    simp only [Wrapper.text, hsource, hfallback]
    rfl

/-- A block is cut out of the text that the wrapper is read from. -/
lemma IsReadFrom.result_block (h : wrapper.IsReadFrom fallback text isDegraded) :
    (wrapper.block scope fallback).result = (Definition.ofText text).map fun definition =>
      ⟨definition.body, definition.name.getD wrapper.blockName, scope, isDegraded⟩ := by
  rw [Wrapper.block, Logged.result_bind, h.result_text]
  change (Logged.lift (Definition.ofText text) >>= _).result = _
  rw [Logged.result_bind]
  cases Definition.ofText text <;> rfl

lemma IsReadFrom.block_eq_ok {block : Block} (h : wrapper.IsReadFrom fallback text isDegraded)
    (hblock : Block.ofText text scope none = .ok block) :
    (wrapper.block scope fallback).result = .ok { block with isDegraded } := by
  obtain ⟨name, body, hdefinition, -, rfl⟩ := Block.ofText_none_eq_ok_iff.mp hblock
  rw [h.result_block, hdefinition]
  rfl

lemma IsReadFrom.block_eq_broken {part : Part} {fault : Code.Fault}
    (h : wrapper.IsReadFrom fallback text isDegraded)
    (hbroken : Block.ofText text scope none = .error (.broken part fault)) :
    (wrapper.block scope fallback).result = .error (.broken part fault) := by
  rw [h.result_block, Block.ofText_eq_broken_iff.mp hbroken]
  rfl

lemma block_eq_noSource {problem : SourceProblem} (hsource : wrapper.source = .error problem) :
    (wrapper.block scope none).result = .error (.noSource wrapper.quoted problem) := by
  simp only [Wrapper.block, Wrapper.text, hsource, Logged.result_bind]
  rfl

/-! ## The run of a wrapper -/

/-- A wrapper that counts its runs beside the state of the program. -/
def counted (wrapper : Wrapper σ) : Wrapper (σ × Nat) where
  name := wrapper.name
  shown := wrapper.shown
  run := fun (state, runs) =>
    let (outcome, state) := wrapper.run state
    (outcome, state, runs + 1)
  source := wrapper.source

/-- A wrapper yields a block by the outcome of its run, and the program goes on from there. -/
lemma extract_eq (wrapper : Wrapper σ) (scope : Scope) (fallback : Option (List Char))
    (state : σ) : wrapper.extract scope fallback state =
      (match (wrapper.run state).1 with
        | .error failure => .fail failure
        | .ok () => wrapper.block scope fallback, (wrapper.run state).2) := by
  rw [Wrapper.extract]
  rcases wrapper.run state with ⟨_ | _, _⟩ <;> rfl

lemma extract_of_run_ok {state after : σ} (hrun : wrapper.run state = (.ok (), after)) :
    wrapper.extract scope fallback state = (wrapper.block scope fallback, after) := by
  rw [extract_eq, hrun]

lemma extract_of_run_error {state after : σ} {failure : Failure}
    (hrun : wrapper.run state = (.error failure, after)) :
    wrapper.extract scope fallback state = (.fail failure, after) := by
  rw [extract_eq, hrun]

/-- Whatever comes out of it, an extraction leaves the state of one run behind. -/
lemma extract_counted (wrapper : Wrapper σ) (scope : Scope) (fallback : Option (List Char))
    (state : σ) (runs : Nat) :
    wrapper.counted.extract scope fallback (state, runs) =
      ((wrapper.extract scope fallback state).1, (wrapper.run state).2, runs + 1) := by
  rw [extract_eq, extract_eq]
  rfl

end Wrapper

/-! ## Both ways agree -/

/-- What an extraction has to do with the blocks of texts without a given name. -/
structure Wrapper.AgreesWithText (wrapper : Wrapper σ) (scope : Scope) (state : σ) : Prop where
  /-- A wrapper whose text is recovered yields the block of that text. -/
  recovered : ∀ after text block fallback, wrapper.run state = (.ok (), after) →
    wrapper.source = .ok text → Block.ofText text scope none = .ok block →
      block.isDegraded = false ∧ (wrapper.extract scope fallback state).1.result = .ok block
  /-- Otherwise it yields the block of the text that stands in, marked as such. -/
  standIn : ∀ after problem text block, wrapper.run state = (.ok (), after) →
    wrapper.source = .error problem → Block.ofText text scope none = .ok block →
      (wrapper.extract scope (some text) state).1.result = .ok { block with isDegraded := true }
  /-- A text that is no program fails alike: with the same message and the same line. -/
  recovered_broken : ∀ after text part fault fallback, wrapper.run state = (.ok (), after) →
    wrapper.source = .ok text → Block.ofText text scope none = .error (.broken part fault) →
      (wrapper.extract scope fallback state).1.result = .error (.broken part fault)
  standIn_broken : ∀ after problem text part fault, wrapper.run state = (.ok (), after) →
    wrapper.source = .error problem →
    Block.ofText text scope none = .error (.broken part fault) →
      (wrapper.extract scope (some text) state).1.result = .error (.broken part fault)
  noSource : ∀ after problem, wrapper.run state = (.ok (), after) →
    wrapper.source = .error problem →
      (wrapper.extract scope none state).1.result = .error (.noSource wrapper.quoted problem)
  /-- A run that fails is the end of it: its failure comes out, and a generator stays as it was. -/
  failed : ∀ after failure fallback (generator : Generator),
    wrapper.run state = (.error failure, after) →
      (wrapper.extract scope fallback state).1.result = .error failure ∧
      (generator.extract wrapper scope fallback state).1.2.result = .error failure ∧
      (generator.extract wrapper scope fallback state).1.1 = generator
  /-- Counting the runs changes nothing, and there is one run, whatever comes out. -/
  once : ∀ fallback runs, wrapper.counted.extract scope fallback (state, runs) =
    ((wrapper.extract scope fallback state).1, (wrapper.run state).2, runs + 1)

/-- **A wrapper yields the block of its text**, or of the text that stands in for it, and fails as
the text does.  It runs once, in every outcome. -/
theorem Wrapper.agreesWithText (wrapper : Wrapper σ) (scope : Scope) (state : σ) :
    wrapper.AgreesWithText scope state where
  recovered after text block fallback hrun hsource hblock := by
    obtain ⟨name, body, -, -, hrecord⟩ := Block.ofText_none_eq_ok_iff.mp hblock
    have hdegraded : block.isDegraded = false := by rw [hrecord]
    refine ⟨hdegraded, ?_⟩
    rw [extract_of_run_ok hrun, (IsReadFrom.recovered hsource).block_eq_ok hblock, ← hdegraded]
  standIn after problem text block hrun hsource hblock := by
    rw [extract_of_run_ok hrun]
    exact (IsReadFrom.standIn hsource rfl).block_eq_ok hblock
  recovered_broken after text part fault fallback hrun hsource hbroken := by
    rw [extract_of_run_ok hrun]
    exact (IsReadFrom.recovered hsource).block_eq_broken hbroken
  standIn_broken after problem text part fault hrun hsource hbroken := by
    rw [extract_of_run_ok hrun]
    exact (IsReadFrom.standIn hsource rfl).block_eq_broken hbroken
  noSource after problem hrun hsource := by
    rw [extract_of_run_ok hrun]
    exact block_eq_noSource hsource
  failed after failure fallback generator hrun := by
    -- there is no block that a generator could register
    have hextract : wrapper.extract scope fallback state = (.fail failure, after) :=
      extract_of_run_error hrun
    rw [Generator.extract, hextract]
    exact ⟨rfl, rfl, rfl⟩
  once fallback runs := wrapper.extract_counted scope fallback state runs

/-- A wrapper that adds one to a number. -/
def Wrapper.adding (source : Except SourceProblem (List Char)) : Wrapper Nat :=
  ⟨some "g", "<g>", fun state => (.ok (), state + 1), source⟩

/-- A wrapper that raises an exception. -/
def Wrapper.raising : Wrapper Nat :=
  ⟨some "g", "<g>", fun state => (.error (.raised "E" "m"), state), .error .unrecorded⟩

/-- The outcomes of an extraction, each of them met. -/
theorem Wrapper.agreesWithText_each_outcome :
    ((adding (.ok "def f(): a[0] = 1\n".toList)).extract (.ofNames ["a"] .object)
        (some "a[\n".toList) 0).1.result =
      .ok ⟨"a[0] = 1\n".toList, "f", .ofNames ["a"] .object, false⟩ ∧
    ((adding (.error .unrecorded)).extract (.ofNames ["a"] .object)
        (some "def f(): a[0] = 1\n".toList) 0).1.result =
      .ok ⟨"a[0] = 1\n".toList, "f", .ofNames ["a"] .object, true⟩ ∧
    ((adding (.ok "a[\n".toList)).extract (.ofNames ["a"] .object) none 0).1.result =
      .error (.broken .unit ⟨.neverClosed '[', 1⟩) ∧
    ((adding (.error .unrecorded)).extract (.ofNames ["a"] .object)
        (some "a[\n".toList) 0).1.result = .error (.broken .unit ⟨.neverClosed '[', 1⟩) ∧
    ((adding (.error .unrecorded)).extract (.ofNames ["a"] .object) none 0).1.result =
      .error (.noSource "'g'" .unrecorded) ∧
    (raising.extract (.ofNames ["a"] .object) none 0).1.result = .error (.raised "E" "m") ∧
    (raising.counted.extract (.ofNames ["a"] .object) none (0, 0)).2 = (0, 1) := by
  have hblock : Block.ofText "def f(): a[0] = 1\n".toList (.ofNames ["a"] .object) none =
      .ok ⟨"a[0] = 1\n".toList, "f", .ofNames ["a"] .object, false⟩ :=
    Block.ofText_none_eq_ok_iff.mpr
      ⟨"f", "a[0] = 1\n".toList, by decide +kernel, by decide +kernel, rfl⟩
  have hbroken : Block.ofText "a[\n".toList (.ofNames ["a"] .object) none =
      .error (.broken .unit ⟨.neverClosed '[', 1⟩) :=
    Block.ofText_eq_broken_iff.mpr (by decide +kernel)
  have hadding (source : Except SourceProblem (List Char)) :
      (adding source).AgreesWithText (.ofNames ["a"] .object) 0 := agreesWithText _ _ _
  have hraising : raising.AgreesWithText (.ofNames ["a"] .object) 0 := agreesWithText _ _ _
  refine ⟨?_, ?_, ?_, ?_, ?_, ?_, ?_⟩
  · exact ((hadding _).recovered 1 _ _ _ rfl rfl hblock).2
  · exact (hadding _).standIn 1 _ _ _ rfl rfl hblock
  · exact (hadding _).recovered_broken 1 _ _ _ _ rfl rfl hbroken
  · exact (hadding _).standIn_broken 1 _ _ _ _ rfl rfl hbroken
  · exact (hadding _).noSource 1 _ rfl rfl
  · exact (hraising.failed 0 _ none (.new [] .default) rfl).1
  · rw [hraising.once]
    rfl

end AdjointSynthesis

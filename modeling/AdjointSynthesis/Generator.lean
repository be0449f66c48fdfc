import AdjointSynthesis.Emission
import AdjointSynthesis.Extraction
import AdjointSynthesis.Registry

/-!
# Generators

A generator collects the blocks of a program and writes the definitions of each shape once.  What
was written for a position is kept, also for a position that counts from the end.
-/

namespace AdjointSynthesis

/-- Collected shapes and the definitions written so far. -/
structure Generator where
  constants : List String
  settings : Settings
  registry : Registry
  /-- The definitions by the position that they were asked for. -/
  written : List (Int × Artifacts)

namespace Generator

/-- A generator without any shapes. -/
def new (constants : List String) (settings : Settings) : Generator :=
  ⟨constants, settings, .empty, []⟩

/-- Registers a block. -/
def register (generator : Generator) (block : Block) :
    Generator × Logged Registry.Registration :=
  let (registry, step) := generator.registry.register block
  ({ generator with registry }, step)

/-- Registers the block that a step yields. -/
def registering (generator : Generator) (step : Logged Block) :
    Generator × Logged Registry.Registration :=
  match step.result with
  | .error failure => (generator, ⟨step.records, .error failure⟩)
  | .ok block =>
    let (generator, after) := generator.register block
    (generator, ⟨step.records ++ after.records, after.result⟩)

/-- Registers a block given as text. -/
def addText (generator : Generator) (source : List Char) (scope : Scope) (name : Option String) :
    Generator × Logged Registry.Registration :=
  generator.registering (.lift (Block.ofText source scope name))

/-- Runs a wrapper and registers its block. -/
def extract {σ : Type} (generator : Generator) (wrapper : Wrapper σ) (scope : Scope)
    (fallback : Option (List Char)) (state : σ) :
    (Generator × Logged Registry.Registration) × σ :=
  let (step, state) := wrapper.extract scope fallback state
  (generator.registering step, state)

variable [Template.Runtime]

/-- The definitions of the shape at a position, written when they are first asked for. -/
def artifacts (generator : Generator) (position : Int) : Generator × Logged Artifacts :=
  match generator.written.lookup position with
  | some found => (generator, .pure found)
  | none =>
    match generator.registry.get position with
    | .error failure => (generator, .fail failure)
    | .ok block =>
      let step := synthesize block generator.constants generator.settings
      match step.result with
      | .error _ => (generator, step)
      | .ok found => ({ generator with written := (position, found) :: generator.written }, step)

/-- The definitions of the shapes at some positions, up to the first that fails. -/
def artifactsAt (generator : Generator) : List Nat → Generator × Logged (List Artifacts)
  | [] => (generator, .pure [])
  | position :: rest =>
    let (generator, step) := generator.artifacts position
    match step.result with
    | .error failure => (generator, ⟨step.records, .error failure⟩)
    | .ok found =>
      let (generator, more) := generator.artifactsAt rest
      (generator, ⟨step.records ++ more.records, more.result.map (found :: ·)⟩)

/-- The definitions of all shapes. -/
def allArtifacts (generator : Generator) : Generator × Logged (List Artifacts) :=
  generator.artifactsAt (List.range generator.registry.blocks.length)

end Generator

/-! ## Reports -/

/-- The texts that are written for a shape, each in one write. -/
def Artifacts.writes (artifacts : Artifacts) : List (List Char) :=
  [("Found mutating variables " ++ ",".intercalate artifacts.roles.mutated ++ " in function " ++
      artifacts.name ++ "!\n").toList,
    ("\nMutating function to replace " ++ artifacts.name ++ " is:\n\n").toList ++ artifacts.inplace,
    ("\nNon-mutating version of " ++ artifacts.name ++ " is:\n\n").toList ++ artifacts.returning,
    "\nAdjoint rule is:\n\n".toList ++ artifacts.adjoint ++ ['\n']]

/-- What a report leaves behind: a generator, the outcome, and all that the stream holds. -/
structure Reported where
  generator : Generator
  step : Logged Unit
  stream : List Char

namespace Generator

variable [Template.Runtime]

/-- Reports on all shapes to a stream that holds what was written before. -/
def reportTo (generator : Generator) (stream : List Char) : Reported :=
  let (generator, step) := generator.allArtifacts
  match step.result with
  | .error failure => ⟨generator, ⟨step.records, .error failure⟩, stream⟩
  | .ok found => ⟨generator, ⟨step.records, .ok ()⟩,
      found.foldl (fun stream artifacts => artifacts.writes.foldl (· ++ ·) stream) stream⟩

/-- The report on all shapes, as it goes to a stream of its own. -/
def report (generator : Generator) : Generator × Logged (List Char) :=
  let outcome := generator.reportTo []
  (outcome.generator,
    ⟨outcome.step.records, outcome.step.result.map fun _ => outcome.stream⟩)

end Generator

end AdjointSynthesis

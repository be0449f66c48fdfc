import AdjointSynthesis.Block
import AdjointSynthesis.Code.Site
import AdjointSynthesis.Logged

/-!
# Extraction

A wrapper is a function without parameters that stands where the statements of a block ran before.
Extraction runs it, so that the program computes what it computed, and takes the block from its
text.  When the text cannot be recovered, a text given beside the wrapper stands in for it.

The run acts on the state of the program, which is a parameter here.
-/

namespace AdjointSynthesis

/-- A wrapper in a program with some states. -/
structure Wrapper (σ : Type) where
  name : Option String
  /-- How a wrapper without a name is shown. -/
  shown : String
  run : σ → Except Failure Unit × σ
  source : Except SourceProblem (List Char)

namespace Wrapper

variable {σ : Type}

/-- The function that a module binds to a name, as a wrapper with the text that it has there. -/
def ofModule? (module : List Char) (name : String) (run : σ → Except Failure Unit × σ) :
    Option (Wrapper σ) :=
  (Code.functionOf? module name).map fun (own, text) => ⟨some own, own, run, .ok text⟩

/-- A wrapper as it is named in a message. -/
def described (wrapper : Wrapper σ) : String := wrapper.name.getD wrapper.shown

/-- A wrapper as it is named in a failure, where a name stands in quotes. -/
def quoted (wrapper : Wrapper σ) : String := (wrapper.name.map Text.quote).getD wrapper.shown

/-- The text of a wrapper or its stand-in, and whether it is a stand-in. -/
def text (wrapper : Wrapper σ) (fallback : Option (List Char)) : Logged (List Char × Bool) :=
  match wrapper.source, fallback with
  | .ok text, _ => .pure (text, false)
  | .error problem, none => .fail (.noSource wrapper.quoted problem)
  | .error problem, some text => do
    Logged.record .warning .blocks
      ("Source of " ++ wrapper.described ++ " unavailable (" ++ problem.message ++
        "); using fallback text, output may drift from the code")
    return (text, true)

/-- The name of the block that a wrapper without a definition of its own holds. -/
def blockName (wrapper : Wrapper σ) : String := wrapper.name.getD "block"

/-- The block of a wrapper, taken from its text. -/
def block (wrapper : Wrapper σ) (scope : Scope) (fallback : Option (List Char)) :
    Logged Block := do
  let (text, isDegraded) ← wrapper.text fallback
  let definition ← Logged.lift (Definition.ofText text)
  return ⟨definition.body, definition.name.getD wrapper.blockName, scope, isDegraded⟩

/-- Runs a wrapper and takes its block, unless the run fails. -/
def extract (wrapper : Wrapper σ) (scope : Scope) (fallback : Option (List Char)) (state : σ) :
    Logged Block × σ :=
  match wrapper.run state with
  | (.error failure, state) => (.fail failure, state)
  | (.ok (), state) => (wrapper.block scope fallback, state)

end Wrapper

end AdjointSynthesis

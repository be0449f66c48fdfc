import AdjointSynthesis.Failure

/-!
# Logged steps

A step of the synthesis leaves records behind, whether it fails or not, and yields a value unless
it fails.
-/

namespace AdjointSynthesis

/-- How much a record matters. -/
inductive Level where
  | debug | info | warning
deriving DecidableEq, Repr

/-- The name of a level. -/
def Level.name : Level → String
  | .debug => "DEBUG"
  | .info => "INFO"
  | .warning => "WARNING"

/-- The parts of the synthesis that leave records behind. -/
inductive Origin where
  | blocks | classify | emit | registry
deriving DecidableEq, Repr

/-- What a step has to say. -/
structure Record where
  level : Level
  origin : Origin
  message : String
deriving DecidableEq, Repr

/-- The records of a step and its value or failure. -/
structure Logged (α : Type) where
  records : List Record
  result : Except Failure α

namespace Logged

variable {α β : Type}

/-- A step that only yields a value. -/
protected def pure (value : α) : Logged α := ⟨[], .ok value⟩

/-- A step and, unless it fails, the next one. -/
protected def bind (step : Logged α) (next : α → Logged β) : Logged β :=
  match step.result with
  | .ok value =>
    let after := next value
    ⟨step.records ++ after.records, after.result⟩
  | .error failure => ⟨step.records, .error failure⟩

instance : Monad Logged where
  pure := Logged.pure
  bind := Logged.bind

/-- A step that leaves no record. -/
def lift (result : Except Failure α) : Logged α := ⟨[], result⟩

instance : MonadLift (Except Failure) Logged := ⟨lift⟩

/-- A step that fails. -/
def fail (failure : Failure) : Logged α := ⟨[], .error failure⟩

/-- A step that leaves a record. -/
def record (level : Level) (origin : Origin) (message : String) : Logged Unit :=
  ⟨[⟨level, origin, message⟩], .ok ()⟩

end Logged

end AdjointSynthesis

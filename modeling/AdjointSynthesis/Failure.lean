import AdjointSynthesis.Code.Fault
import AdjointSynthesis.Template.Fault

/-!
# Failures

Why a step of the synthesis fails.  Most failures lie in what the user gives; a lookup that finds
nothing is a failure of another sort, which the command line does not report.
-/

namespace AdjointSynthesis

/-- The texts that are read as programs. -/
inductive Part where
  /-- The text of a unit, before its statements are cut out. -/
  | unit
  /-- The statements of a block. -/
  | block
deriving DecidableEq, Repr

/-- The word for a text that is read as a program. -/
def Part.describe : Part → String
  | .unit => "unit"
  | .block => "block"

/-- Why the text of a unit cannot be recovered. -/
inductive SourceProblem where
  /-- The text is not on record. -/
  | unrecorded
  /-- An object of some class has no text of its own. -/
  | noText (className : String)
deriving DecidableEq, Repr

/-- The wording of why a text cannot be recovered. -/
def SourceProblem.message : SourceProblem → String
  | .unrecorded => "could not get source code"
  | .noText className =>
    "module, class, method, function, traceback, frame, or code object was expected, got " ++
      className

/-- Why a step of the synthesis fails. -/
inductive Failure where
  /-- A text is no program. -/
  | broken (part : Part) (fault : Code.Fault)
  /-- A text holds the null character.  Releases of the language from 3.11.4 on report that as a
  broken text without a line; up to 3.11.3, which is followed here, it is a failure of its own. -/
  | nullCharacter
  /-- A statement stands on a line beyond the lines that its text is cut into. -/
  | missingLine
  | missingName
  | badName (name : String)
  /-- The run of a unit raised an exception of a class with a message. -/
  | raised (className message : String)
  | noSource (unit : String) (problem : SourceProblem)
  | noMutation (function : String) (referenced : List String)
  | mutatedConstants (names : List String)
  | immutableTargets (names : List String)
  | nameCollision (function : String) (names : List String)
  /-- A name is looked up that is not there. -/
  | unknownName (name : String)
  /-- A shape is asked for that is not registered. -/
  | unknownShape
  | unknownKind (name : String)
  /-- A scope is written to. -/
  | readOnlyScope
  | template (fault : Template.Fault)
deriving DecidableEq, Repr

namespace Failure

/-- Names with commas between them. -/
def listed (names : List String) : String := ", ".intercalate names

/-- The wording of a failure. -/
def message : Failure → String
  | broken part fault => part.describe ++ " is not valid Python: " ++ fault.message
  | nullCharacter => "source code string cannot contain null bytes"
  | missingLine => "list index out of range"
  | missingName => "function_name is required when the source has no def line"
  | badName name => Text.quote name ++ " is not a valid function name"
  | raised className message => if className = "KeyError" then Text.quote message else message
  | noSource unit problem =>
    "cannot recover source of " ++ unit ++ ": " ++ problem.message
  | noMutation function referenced =>
    function ++ ": no visible variable is assigned in place (referenced: " ++
      (if referenced.isEmpty then "none" else listed referenced) ++ ")"
  | mutatedConstants names =>
    "variables declared constant are mutated by the block: " ++ listed names
  | immutableTargets names =>
    "block assigns in place to immutable arrays: " ++ listed names ++
      " (use .at[].set() or convert to numpy first)"
  | nameCollision function names =>
    function ++ ": variables clash with generated names: " ++ listed names ++
      " (rename them or change the naming settings)"
  | unknownName name => Text.quote name
  | unknownShape => "list index out of range"
  | unknownKind name => Text.quote name ++ " is not a valid ScopeKind"
  | readOnlyScope => "'mappingproxy' object does not support item assignment"
  | template fault => fault.message

/-- Whether a failure lies in what the user gives, and not in a lookup that finds nothing. -/
def isReported : Failure → Bool
  | missingLine => false
  | unknownName _ => false
  | unknownShape => false
  | readOnlyScope => false
  | raised _ _ => false
  | template (.absent _) => false
  | template (.raised className _) => className == "ValueError"
  | _ => true

end Failure

end AdjointSynthesis

import AdjointSynthesis.Code.Span
import AdjointSynthesis.CommandLine.Manual
import AdjointSynthesis.Logged
import AdjointSynthesis.Settings.Basic

/-!
# Notices

What the command tells its user beside the report: records of the synthesis that the level of the
settings lets through, and messages.
-/

namespace AdjointSynthesis.CommandLine

/-! ## Records -/

/-- The part of the program that a record names as its origin. -/
def loggerOf : Origin → String
  | .blocks => "inplace_adjoint.extraction.blocks"
  | .classify => "inplace_adjoint.analysis.classify"
  | .emit => "inplace_adjoint.codegen.emit"
  | .registry => "inplace_adjoint.registry.registry"

/-- The weight of a level. -/
def weightOf (level : String) : Nat := (levels.lookup level).getD 0

/-- The weight that a record must have to be shown; a level without weight leaves it at that of
warnings. -/
def thresholdOf (settings : Settings) : Nat :=
  match weightOf settings.logLevel with
  | 0 => weightOf "WARNING"
  | weight => weight

/-- Whether records of a level are shown. -/
def shows (settings : Settings) (level : Level) : Bool :=
  Nat.ble (thresholdOf settings) (weightOf level.name)

/-- What the command tells its user. -/
inductive Notice where
  | logged (record : Record)
  /-- A failure, with the course of calls that led to it. -/
  | failed
  /-- The arguments in short. -/
  | usage
  | message (text : String)
deriving DecidableEq, Repr

/-- A notice as it is written at some time; the lines on the course of calls are given. -/
def Notice.written (time course : String) : Notice → String
  | .logged record =>
    time ++ " [" ++ record.level.name ++ "] " ++ loggerOf record.origin ++ ": " ++ record.message ++
      "\n"
  | .failed => time ++ " [DEBUG] inplace_adjoint.cli: Generation failed\n" ++ course
  | .usage => usageText
  | .message text => commandName ++ ": " ++ text ++ "\n"

/-! ## Refused settings -/

/-- The longest beginning of a text that has at most a number of bytes. -/
def firstBytes (room : Nat) : List Char → List Char
  | [] => []
  | c :: rest =>
    if Code.byteWidth c ≤ room then c :: firstBytes (room - Code.byteWidth c) rest else []

/-- A text that, if it has more than fifty bytes, is cut to its beginning and its end. -/
def shorten (text : List Char) : List Char :=
  if Code.bytesOf text ≤ 50 then text
  else firstBytes 25 text ++ "...".toList ++ (firstBytes 24 text.reverse).reverse

/-- How a refused value is shown, and the type that it has. -/
def shownGiven : Given → String × String
  | .text value => (String.ofList (shorten (Text.quoted value.toList)), "str")
  | .nothing => ("None", "NoneType")
  | .other => ("...", "object")

/-- The lines about a refused setting. -/
def refusalText (refusal : Refusal) : String :=
  let (input, type) := shownGiven refusal.given
  let kind := if refusal.problem = .notText then "string_type" else "value_error"
  let lead := if refusal.problem = .notText then "" else "Value error, "
  refusal.setting.name ++ "\n  " ++ lead ++ refusal.problem.message ++ " [type=" ++ kind ++
    ", input_value=" ++ input ++ ", input_type=" ++ type ++ "]\n" ++
    "    For further information visit https://errors.pydantic.dev/2.14/v/" ++ kind

/-- The wording of why settings are refused. -/
def refusalsText (refusals : List Refusal) : String :=
  let count := refusals.length
  toString count ++ (if count = 1 then " validation error" else " validation errors") ++
    " for Settings\n" ++ "\n".intercalate (refusals.map refusalText)

end AdjointSynthesis.CommandLine

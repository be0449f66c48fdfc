import AdjointSynthesis.CommandLine.Run
import Std.Time.Format

/-!
# The command

Gathers the surroundings of a run, makes it and writes what it leaves behind.  Settings are read by
exact names and from no file, and templates are filled in by a runtime whose texts have no
attributes.
-/

namespace AdjointSynthesis.CommandLine

/-- The bytes of a file. -/
def readFile (path : Path) : IO (Except PathProblem (List UInt8)) := do
  try
    return .ok (← IO.FS.readBinFile (String.ofList path.written)).toList
  catch problem =>
    match problem with
    | .inappropriateType _ code _ =>
      return .error (if code = 21 then .isDirectory else .noDirectory)
    | .permissionDenied .. => return .error .denied
    | _ => return .error .noEntry

/-- The rest of the standard input. -/
partial def readInput : IO ByteArray := do
  let input ← IO.getStdin
  let rec more (found : ByteArray) : IO ByteArray := do
    let next ← input.read 65536
    if next.isEmpty then return found else more (found ++ next)
  more .empty

/-- The variables of the environment that settings may be given by. -/
def readVariables : IO (List (String × String)) := do
  let found ← Setting.all.mapM fun setting => do
    return (← IO.getEnv setting.variableName).map fun value => (setting.variableName, value)
  return found.filterMap id

/-- What surrounds a run with some arguments, as far as it asks. -/
def surroundingsFor (arguments : List String) : IO Surroundings := do
  let assignments ← readFile assignmentsPath
  let environment ← readVariables
  match Request.ofArguments arguments with
  | .ok (.synthesis options) =>
    let path := Path.ofText options.block.toList
    let block ← readFile path
    let input ← if options.block = "-" then readInput else pure .empty
    let read (asked : Path) := if asked = path then block else assignments
    return ⟨read, input.toList, environment, .exact⟩
  | _ => return ⟨fun _ => .error .noEntry, [], environment, .exact⟩

end AdjointSynthesis.CommandLine

open AdjointSynthesis AdjointSynthesis.CommandLine in
/-- Runs the command. -/
def main (arguments : List String) : IO UInt32 := do
  let surroundings ← surroundingsFor arguments
  let _ := Template.Runtime.bare
  match run .command surroundings arguments with
  | .error breakdown =>
    IO.eprintln breakdown.message
    return 1
  | .ok outcome =>
    let now ← Std.Time.PlainDateTime.now
    IO.print (String.ofList outcome.output)
    IO.eprint (outcome.errors (now.format "uuuu-MM-dd HH:mm:ss") "")
    return UInt32.ofNat outcome.status

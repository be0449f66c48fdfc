import AdjointSynthesis.CommandLine.Directory
import AdjointSynthesis.CommandLine.Notice
import AdjointSynthesis.CommandLine.Request
import AdjointSynthesis.Generator
import AdjointSynthesis.Settings.Reader
import AdjointSynthesis.Text.Utf8

/-!
# Running the command

A run takes the arguments and the surroundings of the command, and yields what it writes and the
status it ends with.  The report is written as a whole or not at all.

* `run` ends with status zero when it has written what it was asked for, and with status two and a
  message otherwise.
* A few troubles are no matter of the user's input and break the run down.
-/

namespace AdjointSynthesis.CommandLine

/-- What surrounds a run: the files, the standard input, the variables of the environment, and the
library that reads settings. -/
structure Surroundings where
  read : Path → Except PathProblem (List UInt8)
  input : List UInt8
  environment : List (String × String)
  reader : Settings.Reader

/-- How the command was started: by its name, or by the file that holds it. -/
inductive Entry where
  | command | file
deriving DecidableEq, Repr

/-- What a run leaves behind. -/
structure Outcome where
  status : Nat
  output : List Char
  notices : List Notice
deriving DecidableEq

/-- What breaks a run down. -/
inductive Breakdown where
  | failure (failure : Failure)
  | undecodable (fault : Text.DecodingFault)
  | nullInPath
deriving DecidableEq, Repr

/-- The wording of a breakdown. -/
def Breakdown.message : Breakdown → String
  | failure cause => cause.message
  | undecodable fault => fault.message
  | nullInPath => "embedded null byte"

namespace Outcome

/-- A run that wrote what it was asked for. -/
def done (output : List Char) (notices : List Notice) : Outcome := ⟨0, output, notices⟩

/-- A run that was given up with a message. -/
def refused (notices : List Notice) (text : String) : Outcome :=
  ⟨2, [], notices ++ [.message text]⟩

/-- What a run writes to its user, at some time. -/
def errors (outcome : Outcome) (time course : String) : String :=
  String.join (outcome.notices.map (Notice.written time course))

end Outcome

/-! ## Settings and texts -/

/-- The place of the file of assignments to settings. -/
def assignmentsPath : Path := .ofText ".env".toList

/-- The assignments to settings in a file, if there is one. -/
def fileSource (surroundings : Surroundings) : Except Text.DecodingFault Source :=
  match surroundings.read assignmentsPath with
  | .ok bytes => (Text.decode bytes).map (surroundings.reader.file surroundings.environment)
  | .error _ => .ok []

/-- The fields of settings that the arguments give. -/
def argumentFields (options : Options) : List (String × Given) :=
  match options.logLevel with
  | some level => if level = "" then [] else [(Setting.logLevel.name, .text level)]
  | none => []

/-- The settings of a run, or the wording of why there are none. -/
def settingsOf (surroundings : Surroundings) (options : Options) : Except String Settings := do
  let file ← (fileSource surroundings).mapError Text.DecodingFault.message
  (Settings.ofSources [surroundings.reader.fields (argumentFields options),
    surroundings.reader.environment surroundings.environment, file]).mapError refusalsText

/-- The bytes of the block: those of the standard input or of a file. -/
def blockBytes (surroundings : Surroundings) (block : String) :
    Except Breakdown (Except String (List UInt8)) :=
  if block = "-" then .ok (.ok surroundings.input)
  else if block.toList.contains '\x00' then .error .nullInPath
  else
    let path := Path.ofText block.toList
    .ok ((surroundings.read path).mapError fun problem => problem.message path)

/-! ## Synthesis -/

variable [Template.Runtime]

/-- Registers a block and reports on it. -/
def report (text : List Char) (options : Options) (settings : Settings) : Logged (List Char) :=
  let generator := Generator.new options.constants settings
  let (generator, added) :=
    generator.addText text (Scope.ofNames options.visible .object) options.name
  let (_, reported) := generator.report
  added.bind fun _ => reported

/-- The notices of a synthesis that failed, before its message. -/
def failureNotices (entry : Entry) (settings : Settings) : List Notice :=
  if entry = .command && shows settings .debug then [.failed] else []

/-- A run that synthesizes the definitions for a text. -/
def synthesisOf (entry : Entry) (settings : Settings) (options : Options) (text : List Char) :
    Except Breakdown Outcome :=
  let step := report text options settings
  let shown := (step.records.filter fun record => shows settings record.level).map Notice.logged
  match step.result with
  | .ok output => .ok (.done output shown)
  | .error failure =>
    if failure.isReported then
      .ok (.refused (shown ++ failureNotices entry settings) failure.message)
    else .error (.failure failure)

/-- A run that was asked for a synthesis. -/
def runSynthesis (entry : Entry) (surroundings : Surroundings) (options : Options) :
    Except Breakdown Outcome :=
  match settingsOf surroundings options with
  | .error wording => .ok (.refused [] ("invalid settings: " ++ wording))
  | .ok settings => do
    match ← blockBytes surroundings options.block with
    | .error wording => return .refused [] wording
    | .ok bytes =>
      let text ← (Text.decode bytes).mapError .undecodable
      synthesisOf entry settings options (Text.unifyNewlines text)

/-- A run with some arguments. -/
def run (entry : Entry) (surroundings : Surroundings) (arguments : List String) :
    Except Breakdown Outcome :=
  match Request.ofArguments arguments with
  | .ok .help => .ok (.done helpText.toList [])
  | .ok .version => .ok (.done versionText.toList [])
  | .ok (.synthesis options) => runSynthesis entry surroundings options
  | .error fault => .ok (.refused [.usage] ("error: " ++ fault.message))

end AdjointSynthesis.CommandLine

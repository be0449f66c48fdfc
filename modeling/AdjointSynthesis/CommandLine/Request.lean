import AdjointSynthesis.CommandLine.Flag
import AdjointSynthesis.Text.Blank
import AdjointSynthesis.Text.Identifier
import AdjointSynthesis.Text.Lines
import AdjointSynthesis.Text.Quoted

/-!
# Requests

What the arguments of the command line ask for: help, the version, or a synthesis.  A synthesis
needs the place of a block and its visible variables.

* `Request.ofArguments` reads the arguments from left to right.  A flag that asks for help or the
  version ends the reading there; arguments that belong nowhere count only after all others.
-/

namespace AdjointSynthesis.CommandLine

/-- What a synthesis is asked for with. -/
structure Options where
  block : String
  visible : List String
  constants : List String
  name : Option String
  logLevel : Option String
deriving DecidableEq, Repr

/-- What the arguments ask for. -/
inductive Request where
  | help
  | version
  | synthesis (options : Options)
deriving DecidableEq, Repr

/-- Why arguments are refused. -/
inductive ArgumentFault where
  | ambiguous (argument : String) (flags : List String)
  | missingValue (flag : Flag)
  | ignoredValue (flag : Flag) (value : String)
  | badName (flag : Flag) (name : String)
  | missing (arguments : List String)
  | unrecognized (arguments : List String)
deriving DecidableEq, Repr

/-- The wording of a fault. -/
def ArgumentFault.message : ArgumentFault → String
  | ambiguous argument flags =>
    "ambiguous option: " ++ argument ++ " could match " ++ ", ".intercalate flags
  | missingValue flag => "argument " ++ flag.title ++ ": expected one argument"
  | ignoredValue flag value =>
    "argument " ++ flag.title ++ ": ignored explicit argument " ++ Text.quote value
  | badName flag name =>
    "argument " ++ flag.title ++ ": " ++ Text.quote name ++ " is not a valid identifier"
  | missing arguments => "the following arguments are required: " ++ ", ".intercalate arguments
  | unrecognized arguments => "unrecognized arguments: " ++ " ".intercalate arguments

/-! ## Lists of names -/

/-- The parts of a text between its commas, without white space around them and without empty
ones. -/
def nameParts (text : List Char) : List (List Char) :=
  ((Text.splitOn ',' text).map Text.strip).filter fun part => !part.isEmpty

/-- The names that a text lists, or the first part of it that is none. -/
def names (text : List Char) : Except (List Char) (List (List Char)) :=
  match (nameParts text).find? fun part => !Text.isIdentifier part with
  | some part => .error part
  | none => .ok (nameParts text)

/-- The names that the value of a flag lists. -/
def namesOf (flag : Flag) (value : String) : Except ArgumentFault (List String) :=
  match names value.toList with
  | .ok found => .ok (found.map String.ofList)
  | .error part => .error (.badName flag (String.ofList part))

/-! ## Reading from left to right -/

/-- What was read so far, with the arguments that belong nowhere. -/
structure Reading where
  block : Option String
  visible : Option (List String)
  constants : List String
  name : Option String
  logLevel : Option String
  strays : List String
deriving DecidableEq, Repr

namespace Reading

/-- Nothing was read. -/
def start : Reading := ⟨none, none, [], none, none, []⟩

/-- The reading with an argument that belongs nowhere. -/
def stray (reading : Reading) (argument : String) : Reading :=
  { reading with strays := reading.strays ++ [argument] }

/-- The reading with a plain argument: the block, if that is still missing. -/
def plain (reading : Reading) (argument : String) : Reading :=
  if reading.block.isNone then { reading with block := some argument } else reading.stray argument

/-- The reading with the value of a flag. -/
def put (reading : Reading) (flag : Flag) (value : String) : Except ArgumentFault Reading := do
  match flag with
  | .visible => return { reading with visible := some (← namesOf flag value) }
  | .constants => return { reading with constants := ← namesOf flag value }
  | .name => return { reading with name := some value }
  | .logLevel => return { reading with logLevel := some value }
  | .help => throw (.ignoredValue flag value)
  | .version => throw (.ignoredValue flag value)

/-- What the reading asks for, now that all arguments were read. -/
def finish (reading : Reading) : Except ArgumentFault Request :=
  match reading.block, reading.visible with
  | some block, some visible =>
    if reading.strays.isEmpty then
      .ok (.synthesis ⟨block, visible, reading.constants, reading.name, reading.logLevel⟩)
    else .error (.unrecognized reading.strays)
  | none, some _ => .error (.missing ["block"])
  | some _, none => .error (.missing ["--vars"])
  | none, none => .error (.missing ["block", "--vars"])

end Reading

/-- The value that the letters behind the short flag for help attach to it, if they do. -/
def clusterValue? : List Char → Option (List Char)
  | [] => none
  | '-' :: rest => some ('-' :: rest)
  | 'h' :: rest =>
    match rest with
    | '=' :: value => some value
    | _ => clusterValue? rest
  | _ => none

/-- What some words ask for behind those that were read.  The mark counts for nothing next to the
block. -/
def readWords (reading : Reading) : List Word → Except ArgumentFault Request
  | [] => reading.finish
  | .plain text :: .separator :: rest =>
    if reading.block.isNone then readWords (reading.plain text) rest
    else readWords ((reading.plain text).stray "--") rest
  | .plain text :: rest => readWords (reading.plain text) rest
  | .separator :: .plain text :: rest =>
    if reading.block.isNone then readWords (reading.plain text) rest
    else readWords ((reading.stray "--").plain text) rest
  | .separator :: rest => readWords (reading.stray "--") rest
  | .unknown text :: rest => readWords (reading.stray text) rest
  | .cluster letters :: _ =>
    match clusterValue? letters with
    | some value => .error (.ignoredValue .help (String.ofList value))
    | none => .ok .help
  | .flag known (some value) :: rest => do readWords (← reading.put known value) rest
  | .flag .help none :: _ => .ok .help
  | .flag .version none :: _ => .ok .version
  | .flag known none :: .plain value :: rest => do readWords (← reading.put known value) rest
  | .flag known none :: _ => .error (.missingValue known)

/-- What the arguments are taken for; behind the mark they are all plain. -/
def classify : List String → Except ArgumentFault (List Word)
  | [] => .ok []
  | argument :: rest =>
    if argument = "--" then .ok (.separator :: rest.map Word.plain)
    else do
      let word ← (Word.ofArgument argument).mapError (.ambiguous argument)
      return word :: (← classify rest)

/-- What some arguments ask for. -/
def Request.ofArguments (arguments : List String) : Except ArgumentFault Request := do
  readWords .start (← classify arguments)

end AdjointSynthesis.CommandLine

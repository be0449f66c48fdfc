import AdjointSynthesis.Text.Digit

/-!
# Flags

The arguments of the command line, each taken by itself: a flag, with or without a value attached to
it, the mark behind which all arguments are plain, or a plain argument.  A flag may be cut short as
long as only one begins so.
-/

namespace AdjointSynthesis.CommandLine

/-- The flags of the command. -/
inductive Flag where
  | help | visible | constants | name | logLevel | version
deriving DecidableEq, Repr

/-- The spellings of the flags. -/
def spellings : List (String × Flag) := [("-h", .help), ("--help", .help), ("--vars", .visible),
  ("--const", .constants), ("--name", .name), ("--log-level", .logLevel), ("--version", .version)]

/-- A flag as a message names it. -/
def Flag.title : Flag → String
  | .help => "-h/--help"
  | .visible => "--vars"
  | .constants => "--const"
  | .name => "--name"
  | .logLevel => "--log-level"
  | .version => "--version"

/-- What an argument is taken for. -/
inductive Word where
  | plain (text : String)
  /-- A flag that may have a value attached. -/
  | flag (flag : Flag) (value : Option String)
  /-- The short flag for help with more letters behind it. -/
  | cluster (letters : List Char)
  | unknown (text : String)
  /-- The mark behind which all arguments are plain. -/
  | separator
deriving DecidableEq, Repr

/-- A text before and behind its first equals sign; without one there is nothing behind it. -/
def cutValue (text : List Char) : List Char × Option (List Char) :=
  match text.dropWhile (· != '=') with
  | [] => (text, none)
  | _ :: value => (text.takeWhile (· != '='), some value)

/-- Whether a text is a number with a minus sign; a newline may end it. -/
def isNegativeNumber (text : List Char) : Bool :=
  match text with
  | '-' :: rest =>
    let rest := if rest.getLast? = some '\n' then rest.dropLast else rest
    let isDigit (c : Char) : Bool := (Text.digitValue? c).isSome
    match rest.dropWhile isDigit with
    | [] => !rest.isEmpty
    | '.' :: decimals => !decimals.isEmpty && decimals.all isDigit
    | _ => false
  | _ => false

/-- The spellings that begin with a text. -/
def completions (start : List Char) : List (String × Flag) :=
  spellings.filter fun entry => start.isPrefixOf entry.1.toList

/-- What an argument is taken for before the mark, or the flags that it may stand for. -/
def Word.ofArgument (argument : String) : Except (List String) Word :=
  let text := argument.toList
  let (start, value) := cutValue text
  match text with
  | '-' :: second :: rest =>
    match spellings.lookup argument, spellings.lookup (String.ofList start), value with
    | some known, _, _ => .ok (.flag known none)
    | none, some known, some value => .ok (.flag known (some (String.ofList value)))
    | _, _, _ =>
      let found := if second = '-' then completions start else []
      match found with
      | [(_, known)] => .ok (.flag known (value.map String.ofList))
      | _ :: _ :: _ => .error (found.map Prod.fst)
      | [] =>
        if second = 'h' then .ok (.cluster rest)
        else if isNegativeNumber text || text.contains ' ' then .ok (.plain argument)
        else .ok (.unknown argument)
  | _ => .ok (.plain argument)

end AdjointSynthesis.CommandLine

import AdjointSynthesis.Code.Target
import AdjointSynthesis.Code.Token

/-!
# Readers

A reader takes tokens from some position on and finds a value, finds nothing, or refuses the text
for good.  Alternatives are tried in order and the first that finds something counts.

* What was found for a rule at a position is remembered, so that no text takes long to read.
* The furthest token looked at is remembered as well: a fault without a place of its own is
  reported there.
* A reader runs in one of two moods.  The plain one only finds out whether the text is a program;
  the searching one also looks for known faults and refuses the text at the first of them.
-/

namespace AdjointSynthesis.Code

/-! ## Rules -/

/-- The rules of the grammar that others go through to reach themselves. -/
inductive Rule where
  | expression
  | starExpression
  | disjunction
  | inversion
  | bitwiseOr
  | factor
  | primary
  | text
  | arguments
  | namedFault
  | starTarget
  | targetAtom
  | targetPrimary
  | singleTarget
  | deleteTarget
  | annotatedGroup
  | pattern
  | block
  | elifBranch
deriving DecidableEq, Repr

/-- The arguments of a call. -/
structure Arguments where
  line : Nat
  positional : List Expr
  keywords : List KeywordArgument

/-- What a rule finds. -/
@[reducible] def Rule.Result : Rule → Type
  | .arguments => Arguments
  | .namedFault => Unit
  | .pattern => Pattern
  | .block => List Stmt
  | .elifBranch => Stmt
  | _ => Expr

/-! ## Readers -/

/-- What a reader is given: the tokens, its mood, and whether they stem from a replacement field. -/
structure Context where
  source : TokenSequence
  searching : Bool
  inField : Bool

/-- What was found for a rule: a value and the position behind it, or nothing. -/
structure Finding where
  rule : Rule
  found : Option (rule.Result × Nat)

/-- What is kept when a reader turns back. -/
structure Progress where
  /-- The count of tokens looked at so far. -/
  reach : Nat
  /-- The findings at each position. -/
  findings : Array (List Finding)

/-- The outcome of a reader. -/
inductive Outcome (α : Type) where
  | found (value : α) (next : Nat)
  | nothing
  /-- The text is no program.  A broken text refuses itself where its tokens end. -/
  | refused (fault : Fault) (broken : Bool)

/-- A reader of values. -/
def Reader (α : Type) : Type := Context → Nat → Progress → Outcome α × Progress

namespace Reader

variable {α β : Type}

/-- Finds a value and takes no token. -/
protected def pure (value : α) : Reader α := fun _ position progress =>
  (.found value position, progress)

/-- Reads on with what was found. -/
protected def bind (reader : Reader α) (next : α → Reader β) : Reader β :=
  fun context position progress =>
    match reader context position progress with
    | (.found value behind, progress) => next value context behind progress
    | (.nothing, progress) => (.nothing, progress)
    | (.refused fault broken, progress) => (.refused fault broken, progress)

instance : Monad Reader where
  pure := Reader.pure
  bind := Reader.bind

/-- Tries another reader when the first finds nothing. -/
protected def orElse (reader : Reader α) (other : Unit → Reader α) : Reader α :=
  fun context position progress =>
    match reader context position progress with
    | (.nothing, progress) => other () context position progress
    | result => result

instance : OrElse (Reader α) := ⟨Reader.orElse⟩

/-- Finds nothing. -/
def nothing : Reader α := fun _ _ progress => (.nothing, progress)

/-- Refuses the text with a cause at a line.  Faults in a replacement field say so. -/
def refuseOn (line : Nat) (cause : Cause) : Reader α := fun context _ progress =>
  (.refused ⟨if context.inField then .inField cause else cause, line⟩ false, progress)

/-- The line of the furthest token looked at. -/
def lastLine (context : Context) (progress : Progress) : Nat :=
  match context.source.tokens[progress.reach - 1]? with
  | some token => token.span.start.line
  | none => 1

/-- Refuses the text at the furthest token looked at. -/
def refuse (cause : Cause) : Reader α := fun context position progress =>
  refuseOn (lastLine context progress) cause context position progress

/-- The next token, which is not taken.  Past the last token a broken text is refused. -/
def peek : Reader Token := fun context position progress =>
  let progress := { progress with reach := max progress.reach (position + 1) }
  match context.source.tokens[position]? with
  | some token => (.found token position, progress)
  | none =>
    match context.source.ending with
    | .finished => (.nothing, progress)
    | .broken fault sharp _ =>
      let cause := if context.inField && !sharp then .inField fault.cause else fault.cause
      (.refused ⟨cause, fault.line⟩ true, progress)

/-- Takes one token. -/
def skip : Reader Unit := fun _ position progress => (.found () (position + 1), progress)

/-- Takes the next token if it is of a kind. -/
def take (kind : Token.Kind) : Reader Token := do
  let token ← peek
  if token.kind = kind then do skip; return token
  else nothing

/-- The place where the next token starts. -/
def here : Reader Place := do return (← peek).span.start

/-- The place where the last word before a position ends. -/
def wordEnd (tokens : Array Token) : Nat → Place
  | 0 => ⟨1, 0⟩
  | position + 1 =>
    match tokens[position]? with
    | some token => if token.isLayout then wordEnd tokens position else token.span.stop
    | none => wordEnd tokens position

/-- The place where the last word taken ends. -/
def behind : Reader Place := fun context position progress =>
  (.found (wordEnd context.source.tokens position) position, progress)

/-- The depth of brackets behind the last token taken. -/
def depthBehind : Reader Nat := fun context position progress =>
  (.found (((context.source.tokens[position - 1]?).map Token.depth).getD 0) position, progress)

/-- The span from a place up to the end of the last word taken. -/
def spanFrom (start : Place) : Reader Span := do return ⟨start, ← behind⟩

/-- What a reader finds, with the span it was read from. -/
def spanned (reader : Reader α) : Reader (Span × α) := do
  let start ← here
  let value ← reader
  return (← spanFrom start, value)

/-- Reads a form as an expression. -/
def expression (reader : Reader Form) : Reader Expr := do
  let (span, form) ← spanned reader
  return .mk span form

/-- Reads a form as a statement. -/
def statement (reader : Reader StmtForm) : Reader Stmt := do
  let (span, form) ← spanned reader
  return .mk span form

/-! ## Combinations -/

/-- What a reader finds, if it finds something. -/
def optional (reader : Reader α) : Reader (Option α) := fun context position progress =>
  match reader context position progress with
  | (.found value behind, progress) => (.found (some value) behind, progress)
  | (.nothing, progress) => (.found none position, progress)
  | (.refused fault broken, progress) => (.refused fault broken, progress)

/-- Goes on only if a reader would find something here; takes no token. -/
def ahead (reader : Reader α) : Reader Unit := fun context position progress =>
  match reader context position progress with
  | (.found _ _, progress) => (.found () position, progress)
  | (.nothing, progress) => (.nothing, progress)
  | (.refused fault broken, progress) => (.refused fault broken, progress)

/-- Goes on only if a reader would find nothing here; takes no token. -/
def notAhead (reader : Reader α) : Reader Unit := fun context position progress =>
  match reader context position progress with
  | (.found _ _, progress) => (.nothing, progress)
  | (.nothing, progress) => (.found () position, progress)
  | (.refused fault broken, progress) => (.refused fault broken, progress)

/-- Applies a step to a value as often as it finds something, at most a count of times. -/
def iterateUpTo (step : α → Reader α) : Nat → α → Reader α
  | 0, value => Reader.pure value
  | count + 1, value => fun context position progress =>
    match step value context position progress with
    | (.found value behind, progress) => iterateUpTo step count value context behind progress
    | (.nothing, progress) => (.found value position, progress)
    | (.refused fault broken, progress) => (.refused fault broken, progress)

/-- Applies a step to a value as often as it finds something. -/
def iterate (step : α → Reader α) (value : α) : Reader α := fun context position progress =>
  iterateUpTo step (context.source.tokens.size + 1) value context position progress

/-- As many values in a row as there are. -/
def many (reader : Reader α) : Reader (List α) := do
  let values ← iterate (fun values => do return (← reader) :: values) []
  return values.reverse

/-- One or more values in a row. -/
def many1 (reader : Reader α) : Reader (List α) := do
  let first ← reader
  return first :: (← many reader)

/-- One or more values with separators between them. -/
def separated (separator : Reader β) (reader : Reader α) : Reader (List α) := do
  let first ← reader
  return first :: (← many (do discard separator; reader))

/-- Tries the first of some readers that finds something. -/
def firstOf (readers : List (Reader α)) : Reader α :=
  readers.foldr (fun reader other => Reader.orElse reader fun _ => other) nothing

/-- Reads a head and then settles on what follows: behind the head no alternative counts. -/
def committed (head : Reader α) (tail : α → Reader β) : Reader (Option β) := do
  let found ← head
  optional (tail found)

/-- The value of a reader that may have settled on finding nothing. -/
def settle (reader : Reader (Option α)) : Reader α := do
  match ← reader with
  | some value => return value
  | none => nothing

/-- A value that is one of several alternatives, none of them settled on. -/
def unsettled (reader : Reader α) : Reader (Option α) := do return some (← reader)

/-- Looks for known faults in the searching mood.  Nothing is found either way. -/
def faults (alternatives : List (Reader Unit)) : Reader α := fun context position progress =>
  if context.searching then
    match firstOf alternatives context position progress with
    | (.refused fault broken, progress) => (.refused fault broken, progress)
    | (_, progress) => (.nothing, progress)
  else (.nothing, progress)

/-- Runs a reader in the plain mood. -/
def plainly (reader : Reader α) : Reader α := fun context position progress =>
  reader { context with searching := false } position progress

/-! ## Findings -/

/-- What is remembered for a rule. -/
def recalled? (rule : Rule) : List Finding → Option (Option (rule.Result × Nat))
  | [] => none
  | finding :: rest =>
    if h : finding.rule = rule then some (h ▸ finding.found) else recalled? rule rest

/-- Remembers what the reader of a rule finds, and does not read twice. -/
def remembering (rule : Rule) (reader : Reader rule.Result) : Reader rule.Result :=
  fun context position progress =>
    match recalled? rule (progress.findings[position]?.getD []) with
    | some (some (value, behind)) => (.found value behind, progress)
    | some none => (.nothing, progress)
    | none =>
      match reader context position progress with
      | (.found value behind, ⟨reach, findings⟩) =>
        (.found value behind, ⟨reach, findings.modify position (⟨rule, some (value, behind)⟩ :: ·)⟩)
      | (.nothing, ⟨reach, findings⟩) =>
        (.nothing, ⟨reach, findings.modify position (⟨rule, none⟩ :: ·)⟩)
      | (.refused fault broken, progress) => (.refused fault broken, progress)

/-! ## Reading a whole text -/

/-- No progress yet, for a count of tokens. -/
def noProgress (reach count : Nat) : Progress := ⟨reach, Array.replicate (count + 1) []⟩

/-- The fault to report when the grammar refuses a text: a sharp fault further on comes first, and
so does a bracket left open on a line before the furthest one looked at. -/
def overrule (context : Context) (progress : Progress) (fault : Fault) : Fault :=
  match context.source.ending with
  | .finished => fault
  | .broken other sharp bracket =>
    if sharp then other
    else
      match bracket with
      | none => fault
      | some open_ =>
        if open_.line < lastLine context progress then
          let cause := .neverClosed open_.opening
          ⟨if context.inField then .inField cause else cause, open_.line⟩
        else fault

/-- Reads a whole text, first plainly, then in search of the fault that best explains why it is no
program. -/
def readAll (reader : Reader α) (source : TokenSequence) (inField : Bool) : Except Fault α :=
  let plain : Context := ⟨source, false, inField⟩
  let count := source.tokens.size
  match reader plain 0 (noProgress 0 count) with
  | (.found value _, _) => .ok value
  | (.refused fault broken, progress) =>
    .error (if broken then fault else overrule plain progress fault)
  | (.nothing, first) =>
    let searching : Context := ⟨source, true, inField⟩
    match reader searching 0 (noProgress first.reach count) with
    | (.refused fault broken, progress) =>
      .error (if broken then fault else overrule searching progress fault)
    | (_, second) =>
      let inPlace (cause : Cause) : Cause := if inField then .inField cause else cause
      let layout (cause : Cause) : Fault := ⟨inPlace cause, lastLine searching second⟩
      match source.tokens[first.reach - 1]? with
      | some token =>
        match token.kind with
        | .indent => .error (layout .unexpectedIndent)
        | .dedent => .error (layout .unexpectedUnindent)
        | _ =>
          .error (overrule searching second ⟨inPlace .grammar, token.span.start.line⟩)
      | none => .error ⟨inPlace .grammar, 1⟩

end Reader

end AdjointSynthesis.Code

import AdjointSynthesis.Code.Grammar.Expressions

/-!
# Patterns

What stands behind the word case.  A pattern is a literal, a name to bind, a name with attributes
to compare with, or patterns in brackets.
-/

namespace AdjointSynthesis.Code.Grammar

open Reader

variable (sub : Grammar)

/-! ## Literals -/

/-- Whether a number is written as an imaginary one. -/
def isImaginary : Expr → Bool
  | .mk _ (.constant (.number written)) =>
    match written.toList.reverse with
    | last :: _ => last == 'j' || last == 'J'
    | [] => false
  | _ => false

/-- A number that may have a minus before it. -/
def signedNumber (number : Reader Expr) : Reader Expr :=
  number <|> signed .minus .minus number

/-- A number as the real part of a complex one. -/
def realNumber : Reader Expr := do
  let found ← expression numberForm
  if isImaginary found then refuseExpr found .realPart else return found

/-- A number as the imaginary part of a complex one. -/
def imaginaryNumber : Reader Expr := do
  let found ← expression numberForm
  if isImaginary found then return found else refuseExpr found .imaginaryPart

/-- A complex number as a sum or difference. -/
def complexNumber : Reader Expr := expression do
  let real ← signedNumber realNumber
  let operator ← operatorMark .plus .add <|> operatorMark .minus .subtract
  return .binary operator real (← imaginaryNumber)

/-- A number or a text. -/
def literalValue : Reader Expr :=
  (do
    let found ← signedNumber (expression numberForm)
    notAhead (mark .plus <|> mark .minus)
    return found) <|>
  complexNumber <|> sub .text

/-- A literal as a key. -/
def literalKey : Reader Expr := literalValue sub <|> expression constantForm

/-- A pattern with the span it was read from. -/
def patternOf (reader : Reader (Span → Pattern)) : Reader Pattern := do
  let (span, build) ← spanned reader
  return build span

/-- A literal as a pattern. -/
def literalPattern : Reader Pattern :=
  patternOf (do
    let found ← literalValue sub
    return fun span => .value span found) <|>
  patternOf do
    match ← constantForm with
    | .constant value => return fun span => .singleton span value
    | _ => nothing

/-! ## Names -/

/-- What makes a name more than a name to bind. -/
def nameExtension : Reader Token := mark .dot <|> mark .openParen <|> mark .assign

/-- A name to bind. -/
def captureName : Reader String := do
  notAhead (softWord ['_'])
  let name ← identifier
  notAhead nameExtension
  return name

/-- A name that may have attributes. -/
def nameOrAttribute : Reader Expr := do
  let start ← here
  let first ← nameExpression
  iterate (attributeOf start) first

/-- A name with attributes. -/
def dottedValue : Reader Expr := do
  let found ← nameOrAttribute
  match found with
  | .mk _ (.attribute _ _) => return found
  | _ => nothing

/-- A name with attributes as a pattern. -/
def valuePattern : Reader Pattern := patternOf do
  let found ← dottedValue
  notAhead nameExtension
  return fun span => .value span found

/-- A name to bind as a pattern. -/
def capturePattern : Reader Pattern := patternOf do
  let name ← captureName
  return fun span => .capture span none (some name)

/-- The pattern of everything. -/
def wildcard : Reader Pattern := patternOf do
  discard (softWord ['_'])
  return fun span => .capture span none none

/-! ## Patterns in brackets -/

/-- A pattern for the rest of a sequence. -/
def starPattern : Reader Pattern := patternOf do
  discard (mark .star)
  let name ← (do return some (← captureName)) <|> (do discard wildcard; return none)
  return fun span => .star span name

/-- A pattern in a sequence. -/
def sequenceItem : Reader Pattern := starPattern <|> sub .pattern

/-- The patterns of a sequence. -/
def sequenceItems : Reader (List Pattern) := commaSeparated (sequenceItem sub)

/-- The patterns of a sequence that has a comma. -/
def openSequence : Reader (List Pattern) := do
  let first ← sequenceItem sub
  discard (mark .comma)
  let more ← optional (sequenceItems sub)
  return first :: more.getD []

/-- A pattern in round brackets. -/
def groupPattern : Reader Pattern := do
  discard (mark .openParen)
  let found ← sub .pattern
  discard (mark .closeParen)
  return found

/-- A sequence in brackets. -/
def sequencePattern : Reader Pattern :=
  patternOf (do
    discard (mark .openBracket)
    let items ← optional (sequenceItems sub)
    discard (mark .closeBracket)
    return fun span => .sequence span (items.getD [])) <|>
  patternOf do
    discard (mark .openParen)
    let items ← optional (openSequence sub)
    discard (mark .closeParen)
    return fun span => .sequence span (items.getD [])

/-- A pattern for the entry of a key. -/
def keyPattern : Reader (Expr × Pattern) := do
  let key ← literalKey sub <|> dottedValue
  discard (mark .colon)
  return (key, ← sub .pattern)

/-- The name for the rest of a mapping. -/
def restName : Reader String := do
  discard (mark .doubleStar)
  captureName

/-- What stands between the brackets of a mapping. -/
def mappingItems : Reader (List (Expr × Pattern) × Option String) :=
  (do
    ahead (mark .closeBrace)
    return ([], none)) <|>
  (do
    let rest ← restName
    discard (optional (mark .comma))
    ahead (mark .closeBrace)
    return ([], some rest)) <|>
  (do
    let items ← separated (mark .comma) (keyPattern sub)
    discard (mark .comma)
    let rest ← restName
    discard (optional (mark .comma))
    ahead (mark .closeBrace)
    return (items, some rest)) <|>
  (do
    let items ← commaSeparated (keyPattern sub)
    ahead (mark .closeBrace)
    return (items, none))

/-- A mapping. -/
def mappingPattern : Reader Pattern := patternOf do
  discard (mark .openBrace)
  let (items, rest) ← mappingItems sub
  discard (mark .closeBrace)
  return fun span => .mapping span (items.map Prod.fst) (items.map Prod.snd) rest

/-! ## Records -/

/-- Patterns by position. -/
def positionalPatterns : Reader (List Pattern) := separated (mark .comma) (sub .pattern)

/-- A pattern for a named part. -/
def namedPattern : Reader (String × Pattern) := do
  let name ← identifier
  discard (mark .assign)
  return (name, ← sub .pattern)

/-- Patterns for named parts. -/
def namedPatterns : Reader (List (String × Pattern)) :=
  separated (mark .comma) (namedPattern sub)

/-- What stands between the brackets of a record. -/
def recordItems : Reader (List Pattern × List (String × Pattern)) :=
  (do
    ahead (mark .closeParen)
    return ([], [])) <|>
  (do
    let positional ← positionalPatterns sub
    discard (optional (mark .comma))
    ahead (mark .closeParen)
    return (positional, [])) <|>
  (do
    let named ← namedPatterns sub
    discard (optional (mark .comma))
    ahead (mark .closeParen)
    return ([], named)) <|>
  (do
    let positional ← positionalPatterns sub
    discard (mark .comma)
    let named ← namedPatterns sub
    discard (optional (mark .comma))
    ahead (mark .closeParen)
    return (positional, named))

/-- Known faults of a record. -/
def recordFaults : List (Reader Unit) := [do
  discard nameOrAttribute
  discard (mark .openParen)
  discard (optional do
    discard (positionalPatterns sub)
    mark .comma)
  discard (namedPatterns sub)
  discard (mark .comma)
  match ← positionalPatterns sub with
  | first :: _ => refuseOn first.span.start.line .positionalPattern
  | [] => return ()]

/-- A record: a type with patterns for its parts. -/
def recordPattern : Reader Pattern :=
  patternOf (do
    let type ← nameOrAttribute
    discard (mark .openParen)
    let (positional, named) ← recordItems sub
    discard (mark .closeParen)
    return fun span =>
      .record span type positional (named.map Prod.fst) (named.map Prod.snd)) <|>
  faults (recordFaults sub)

/-! ## Whole patterns -/

/-- A pattern without alternatives. -/
def closedPattern : Reader Pattern :=
  literalPattern sub <|> capturePattern <|> wildcard <|> valuePattern <|> groupPattern sub <|>
  sequencePattern sub <|> mappingPattern sub <|> recordPattern sub

/-- A pattern that may have alternatives. -/
def choicePattern : Reader Pattern := do
  let (span, options) ← spanned (separated (mark .bar) (closedPattern sub))
  match options with
  | [single] => return single
  | _ => return .choice span options

/-- Known faults of a pattern with a name for what it finds. -/
def namingFaults : List (Reader Unit) := [
  do
    discard (choicePattern sub)
    discard (word .as_)
    refuseToken (← softWord ['_']) .underscoreTarget,
  do
    discard (choicePattern sub)
    discard (word .as_)
    notAhead nameToken
    refuseExpr (← sub .expression) .patternTarget]

/-- A pattern. -/
def patternRule : Reader Pattern :=
  patternOf (do
    let inner ← choicePattern sub
    discard (word .as_)
    let name ← captureName
    return fun span => .capture span (some inner) (some name)) <|>
  faults (namingFaults sub) <|>
  choicePattern sub

/-- The pattern of a case, which may be a sequence without brackets. -/
def casePattern : Reader Pattern :=
  patternOf (do
    let items ← openSequence sub
    return fun span => .sequence span items) <|>
  sub .pattern

end AdjointSynthesis.Code.Grammar

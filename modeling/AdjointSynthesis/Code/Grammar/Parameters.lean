import AdjointSynthesis.Code.Grammar.Terminals

/-!
# Parameters

The parameters of functions and of lambdas.  They follow one grammar; functions have annotations
and end their parameters with a bracket, lambdas with a colon.
-/

namespace AdjointSynthesis.Code.Grammar

open Reader

/-- What differs between the parameters of functions and those of lambdas. -/
structure ParameterStyle where
  isLambda : Bool
  closing : Mark

/-- The parameters of functions. -/
def ParameterStyle.function : ParameterStyle := ⟨false, .closeParen⟩

/-- The parameters of lambdas. -/
def ParameterStyle.lambda : ParameterStyle := ⟨true, .colon⟩

variable (sub : Grammar) (style : ParameterStyle)

/-- One parameter. -/
def parameter : Reader Parameter := do
  let (span, name, hint) ← spanned do
    let name ← identifier
    let hint ← if style.isLambda then pure none
      else optional (do discard (mark .colon); sub .expression)
    return (name, hint)
  return .mk span name hint

/-- A parameter behind a star whose annotation may have a star. -/
def starAnnotated : Reader Parameter := do
  let (span, name, hint) ← spanned do
    let name ← identifier
    discard (mark .colon)
    return (name, ← sub .starExpression)
  return .mk span name (some hint)

/-- The default of a parameter. -/
def defaultValue : Reader Expr :=
  (do discard (mark .assign); sub .expression) <|>
  faults [do
    let sign ← mark .assign
    ahead (discard (mark .closeParen) <|> discard (mark .comma))
    refuseToken sign .missingDefault]

/-- The comma behind a parameter, or the end of all parameters. -/
def parameterEnd : Reader Unit :=
  discard (mark .comma) <|> ahead (mark style.closing)

/-- A parameter without a default. -/
def plainParameter : Reader Parameter := do
  let found ← parameter sub style
  parameterEnd style
  return found

/-- A parameter with a default. -/
def defaultParameter : Reader (Parameter × Expr) := do
  let found ← parameter sub style
  let value ← defaultValue sub
  parameterEnd style
  return (found, value)

/-- A parameter that may have a default. -/
def anyParameter : Reader (Parameter × Option Expr) := do
  let found ← parameter sub style
  let value ← optional (defaultValue sub)
  parameterEnd style
  return (found, value)

/-- The slash behind parameters that go by position only. -/
def slashEnd : Reader Token := do
  let slash ← mark .slash
  parameterEnd style
  return slash

/-- Parameters without defaults before a slash. -/
def plainBeforeSlash : Reader (List Parameter) := do
  let found ← many1 (plainParameter sub style)
  discard (slashEnd style)
  return found

/-- Parameters before a slash, the last of them with defaults. -/
def defaultsBeforeSlash : Reader (List Parameter × List (Parameter × Expr)) := do
  let plain ← many (plainParameter sub style)
  let withDefault ← many1 (defaultParameter sub style)
  discard (slashEnd style)
  return (plain, withDefault)

/-- Parameters before a slash of either kind. -/
def beforeSlash : Reader Unit :=
  discard (plainBeforeSlash sub style) <|> discard (defaultsBeforeSlash sub style)

/-- The parameters from a star on. -/
structure StarParameters where
  variadic : Option Parameter
  keywordOnly : List (Parameter × Option Expr)
  keywords : Option Parameter

/-- Known faults behind a double star. -/
def spreadFaults : List (Reader Unit) := [
  do
    discard (mark .doubleStar)
    discard (parameter sub style)
    refuseToken (← mark .assign) .spreadDefault,
  do
    discard (mark .doubleStar)
    discard (parameter sub style)
    discard (mark .comma)
    let .mk span _ _ ← parameter sub style
    refuseOn span.start.line .afterSpread,
  do
    discard (mark .doubleStar)
    discard (parameter sub style)
    discard (mark .comma)
    refuseToken (← mark .star <|> mark .doubleStar <|> mark .slash) .afterSpread]

/-- The parameter that takes all other keywords. -/
def spreadParameter : Reader Parameter :=
  faults (spreadFaults sub style) <|>
  (do discard (mark .doubleStar); plainParameter sub style)

/-- Known faults behind a star. -/
def starFaults : List (Reader Unit) := [
  do
    let star ← mark .star
    discard (mark style.closing) <|> (do
      discard (mark .comma)
      discard (mark style.closing) <|> discard (mark .doubleStar))
    if style.isLambda then refuse .bareStar else refuseToken star .bareStar,
  do
    discard (mark .star)
    discard (parameter sub style)
    refuseToken (← mark .assign) .starDefault,
  do
    discard (mark .star)
    discard (plainParameter sub style) <|> discard (mark .comma)
    discard (many (anyParameter sub style))
    let star ← mark .star
    discard (plainParameter sub style) <|> discard (mark .comma)
    refuseToken star .repeatedStar]

/-- The parameters from a star or double star on. -/
def starParameters : Reader StarParameters :=
  faults (starFaults sub style) <|>
  (do
    discard (mark .star)
    let variadic ← plainParameter sub style
    let more ← many (anyParameter sub style)
    return ⟨some variadic, more, ← optional (spreadParameter sub style)⟩) <|>
  (do
    if style.isLambda then nothing
    discard (mark .star)
    let variadic ← starAnnotated sub
    parameterEnd style
    let more ← many (anyParameter sub style)
    return ⟨some variadic, more, ← optional (spreadParameter sub style)⟩) <|>
  (do
    discard (mark .star)
    discard (mark .comma)
    let more ← many1 (anyParameter sub style)
    return ⟨none, more, ← optional (spreadParameter sub style)⟩) <|>
  (do return ⟨none, [], some (← spreadParameter sub style)⟩)

/-- All parameters put together. -/
def joinParameters (beforeSlash : List Parameter) (slashDefaults : List (Parameter × Expr))
    (plain : List Parameter) (withDefault : List (Parameter × Expr))
    (star : Option StarParameters) : Parameters :=
  let star := star.getD ⟨none, [], none⟩
  .mk (beforeSlash ++ slashDefaults.map Prod.fst) (plain ++ withDefault.map Prod.fst)
    star.variadic (star.keywordOnly.map Prod.fst) (star.keywordOnly.map Prod.snd) star.keywords
    (slashDefaults.map Prod.snd ++ withDefault.map Prod.snd)

/-- Known faults of parameters. -/
def parameterFaults : List (Reader Unit) := [
  do
    discard (many (plainParameter sub style))
    discard (defaultsBeforeSlash sub style) <|> discard (many1 (defaultParameter sub style))
    let .mk span _ _ ← plainParameter sub style
    refuseOn span.start.line .plainAfterDefault,
  do
    discard (many (plainParameter sub style))
    let open_ ← mark .openParen
    if style.isLambda then discard (separated (mark .comma) (parameter sub style))
    else discard (many1 (plainParameter sub style))
    discard (optional (mark .comma))
    discard (mark .closeParen)
    refuseToken open_ (.groupedParameters style.isLambda),
  do
    beforeSlash sub style
    discard (many (anyParameter sub style))
    refuseToken (← mark .slash) .repeatedSlash,
  do
    discard (optional (beforeSlash sub style))
    discard (many (anyParameter sub style))
    discard (mark .star)
    discard (mark .comma) <|> discard (plainParameter sub style)
    discard (many (anyParameter sub style))
    refuseToken (← mark .slash) .slashAfterStar,
  do
    discard (many1 (anyParameter sub style))
    discard (mark .slash)
    refuseToken (← mark .star) .commaAfterSlash]

/-- The parameters of a function or lambda, of which there is at least one. -/
def parameters : Reader Parameters :=
  faults (parameterFaults sub style) <|>
  (do
    let before ← plainBeforeSlash sub style
    let plain ← many (plainParameter sub style)
    let withDefault ← many (defaultParameter sub style)
    return joinParameters before [] plain withDefault (← optional (starParameters sub style))) <|>
  (do
    let (before, defaults) ← defaultsBeforeSlash sub style
    let withDefault ← many (defaultParameter sub style)
    return joinParameters before defaults [] withDefault
      (← optional (starParameters sub style))) <|>
  (do
    let plain ← many1 (plainParameter sub style)
    let withDefault ← many (defaultParameter sub style)
    return joinParameters [] [] plain withDefault (← optional (starParameters sub style))) <|>
  (do
    let withDefault ← many1 (defaultParameter sub style)
    return joinParameters [] [] [] withDefault (← optional (starParameters sub style))) <|>
  (do return joinParameters [] [] [] [] (some (← starParameters sub style)))

end AdjointSynthesis.Code.Grammar

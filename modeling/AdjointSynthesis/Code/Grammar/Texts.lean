import AdjointSynthesis.Code.Grammar.Arguments
import AdjointSynthesis.Code.Literal

/-!
# Texts

Text tokens in a row make one constant, or one text with replacement fields when a token has them.
The expression of a field is read by the grammar again, from its own tokens.
-/

namespace AdjointSynthesis.Code.Grammar

open Reader

variable (sub : Grammar)

/-- The parts of a text so far, newest first, and the units behind the last field. -/
structure Pieces where
  parts : List Expr
  units : List TextUnit

/-- The span and the mark of the constants of a text. -/
structure TextPlace where
  span : Span
  marked : Bool

/-- The units behind the last field as a part of its own. -/
def Pieces.closed (pieces : Pieces) (place : TextPlace) : List Expr :=
  if pieces.units.isEmpty then pieces.parts
  else .mk place.span (.constant (.text pieces.units place.marked)) :: pieces.parts

/-- Takes a result or refuses the text at the furthest token looked at. -/
def orRefuse {α : Type} (result : Except Cause α) : Reader α :=
  match result with
  | .ok value => return value
  | .error cause => refuse cause

/-- Takes a result or refuses the text because of a field. -/
def orRefuseField {α : Type} (result : Except FieldFault α) : Reader α :=
  orRefuse (result.mapError .field)

/-- The value of a field's expression. -/
def fieldValue (text : TextToken) (behindBrace expression : List Char) (sign : Char) :
    Reader Expr := fun context position progress =>
  if isEmptyExpression expression then
    let fault : FieldFault :=
      if sign = '!' ∨ sign = ':' ∨ sign = '=' then .emptyBefore sign else .emptyExpression
    refuse (.field fault) context position progress
  else
    let before := text.token.written.take
      (text.offset + (text.body.length - behindBrace.length) - 1)
    let place := fieldPlace text.token before behindBrace
    match readAll (starExpressions sub) (fieldTokens place expression) true with
    | .ok value => (.found value position, progress)
    | .error fault => (.refused fault false, progress)

/-- A field, from behind its brace on, and what stands behind it.  The text of the expression is
shown when an equals sign follows it. -/
def field (place : TextPlace) (text : TextToken)
    (format : Option (List Char → Reader (Expr × List Char))) (behindBrace : List Char) :
    Reader (List TextUnit × Expr × List Char) := do
  if format.isNone then refuse (.field .nestedTooDeep)
  let behind ← orRefuseField (behindExpression none [] 0 behindBrace)
  let expression := behindBrace.take (behindBrace.length - behind.length)
  let value ← fieldValue sub text behindBrace expression (behind.headD '\x7d')
  let afterSign :=
    if behind.head? = some '=' then (behind.drop 1).dropWhile isSignSpace else behind
  if afterSign.isEmpty then refuse (.field .unclosed)
  let isShown := decide (behind.head? = some '=')
  let shown := behindBrace.take (behindBrace.length - afterSign.length)
  let conversion ←
    if afterSign.head? = some '!' then
      match afterSign.drop 1 with
      | [] => refuse (.field .unclosed)
      | c :: _ =>
        if c = 's' ∨ c = 'r' ∨ c = 'a' then pure (some c) else refuse (.field .conversion)
    else pure none
  let afterConversion := if conversion.isSome then afterSign.drop 2 else afterSign
  let (spec, rest) ←
    if afterConversion.head? = some ':' then
      match format, afterConversion.drop 1 with
      | some format, c :: more => do
        let (spec, rest) ← format (c :: more)
        pure (some spec, rest)
      | _, _ => refuse (.field .unclosed)
    else pure (none, afterConversion)
  if rest.head? ≠ some '\x7d' then refuse (.field .unclosed)
  let conversion := if isShown && spec.isNone && conversion.isNone then some 'r' else conversion
  let units := if isShown then shown.map fun c => .code c.toNat else []
  return (units, .mk place.span (.field value conversion spec), rest.drop 1)

/-- The stretches and fields of a body, and what stands behind them: nothing, or the brace that
ends a format. -/
def bodyPieces (place : TextPlace) (text : TextToken) (inFormat : Bool)
    (format : Option (List Char → Reader (Expr × List Char))) :
    Nat → Pieces → List Char → Reader (Pieces × List Char)
  | 0, pieces, rest => return (pieces, rest)
  | fuel + 1, pieces, rest => do
    let found ← orRefuseField (stretch text.raw inFormat (rest.length + 1) rest)
    let units ← orRefuse (textUnits text.raw found.text)
    let pieces : Pieces := { pieces with units := pieces.units ++ units }
    if found.doubled then bodyPieces place text inFormat format fuel pieces found.rest
    else
      match found.rest with
      | [] => return (pieces, [])
      | c :: behindBrace =>
        if c = '\x7d' then return (pieces, found.rest)
        else
          let (shown, value, rest) ← field sub place text format behindBrace
          let pieces : Pieces := { pieces with units := pieces.units ++ shown }
          bodyPieces place text inFormat format fuel ⟨value :: pieces.closed place, []⟩ rest

/-- The format of a field, which may hold fields itself as deep as a count allows. -/
def formatSpec (place : TextPlace) (text : TextToken) : Nat → List Char → Reader (Expr × List Char)
  | 0, rest => specOf none rest
  | depth + 1, rest => specOf (some (formatSpec place text depth)) rest
where
  /-- A format whose fields have formats of their own. -/
  specOf (format : Option (List Char → Reader (Expr × List Char))) (rest : List Char) :
      Reader (Expr × List Char) := do
    let own : TextPlace := ⟨text.token.span, text.token.written.head? = some 'u'⟩
    let (pieces, rest) ←
      bodyPieces sub place text true format (rest.length + 1) ⟨[], []⟩ rest
    if rest.head? ≠ some '\x7d' then refuse (.field .unclosed)
    return (.mk own.span (.template (pieces.closed own).reverse), rest)

/-- The pieces of one text token behind those before it. -/
def tokenPieces (place : TextPlace) (pieces : Pieces) (text : TextToken) : Reader Pieces :=
  if text.hasFields then do
    let (pieces, rest) ←
      bodyPieces sub place text false (some (formatSpec sub place text 1))
        (text.body.length + 1) pieces text.body
    if !rest.isEmpty then refuse (.field .textAfterEnd)
    return pieces
  else do
    return { pieces with units := pieces.units ++ (← orRefuse (textUnits text.raw text.body)) }

/-- The pieces of some text tokens; a token may not differ from the first in being bytes. -/
def allPieces (place : TextPlace) (pieces : Pieces) : List TextToken → Reader Pieces
  | [] => return pieces
  | text :: rest => do
    let pieces ← tokenPieces sub place pieces text
    if text.bytes then refuse .mixedBytes
    allPieces place pieces rest

/-- The bytes of some text tokens. -/
def allBytes : List TextToken → Reader (List Nat)
  | [] => return []
  | text :: rest => do
    let values ←
      match byteValues text.raw text.body with
      | .ok values => pure values
      | .error .bytesCharacter => refuseToken text.token .bytesCharacter
      | .error cause => refuse cause
    if !text.bytes then refuse .mixedBytes
    return values ++ (← allBytes rest)

/-- Texts in a row. -/
def textRule : Reader Expr := do
  let (span, tokens) ← spanned (many1 (take .text))
  let texts := tokens.map TextToken.ofToken
  match texts with
  | [] => nothing
  | first :: _ =>
    if first.bytes then return .mk span (.constant (.bytes (← allBytes texts)))
    else
      let place : TextPlace := ⟨span, first.token.written.head? = some 'u'⟩
      let pieces ← allPieces sub place ⟨[], []⟩ texts
      if texts.any TextToken.hasFields then
        return .mk span (.template (pieces.closed place).reverse)
      else return .mk span (.constant (.text pieces.units place.marked))

end AdjointSynthesis.Code.Grammar

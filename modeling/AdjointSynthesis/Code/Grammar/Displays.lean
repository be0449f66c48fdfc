import AdjointSynthesis.Code.Grammar.Arguments

/-!
# Displays

What stands in brackets of its own: tuples, groups and generators in round ones, lists in square
ones, dictionaries and sets in curly ones.
-/

namespace AdjointSynthesis.Code.Grammar

open Reader

variable (sub : Grammar)

/-- Known faults of a comprehension. -/
def comprehensionFaults : List (Reader Unit) := [
  do
    discard (mark .openBracket <|> mark .openParen <|> mark .openBrace)
    let item ← starredArgument sub
    discard (clauses sub)
    refuseExpr item .starredComprehension,
  do
    discard (mark .openBracket <|> mark .openBrace)
    let first ← starNamedExpression sub
    discard (mark .comma)
    discard (starNamedExpressions sub)
    discard (clauses sub)
    refuseExpr first .comprehensionTarget,
  do
    discard (mark .openBracket <|> mark .openBrace)
    let first ← starNamedExpression sub
    discard (mark .comma)
    discard (clauses sub)
    refuseExpr first .comprehensionTarget]

/-! ## Round brackets -/

/-- A tuple in brackets. -/
def tupleDisplay : Reader Expr := expression do
  discard (mark .openParen)
  let items ← optional do
    let first ← starNamedExpression sub
    discard (mark .comma)
    let more ← optional (starNamedExpressions sub)
    return first :: more.getD []
  discard (mark .closeParen)
  return .tuple (items.getD [])

/-- Known faults of an expression in brackets. -/
def groupFaults : List (Reader Unit) := [
  do
    discard (mark .openParen)
    let found ← starredArgument sub
    discard (mark .closeParen)
    refuseExpr found .starredGroup,
  do
    discard (mark .openParen)
    let stars ← mark .doubleStar
    discard (sub .expression)
    discard (mark .closeParen)
    refuseToken stars .spreadGroup]

/-- An expression in brackets, which leave no trace in the tree. -/
def group : Reader Expr :=
  (do
    discard (mark .openParen)
    let found ← yieldExpression sub <|> namedExpression sub
    discard (mark .closeParen)
    return found) <|>
  faults (groupFaults sub)

/-- A generator. -/
def generatorDisplay : Reader Expr :=
  (expression do
    discard (mark .openParen)
    let item ← assignmentExpression sub <|> unboundExpression sub
    let found ← clauses sub
    discard (mark .closeParen)
    return .generator item found) <|>
  faults (comprehensionFaults sub)

/-! ## Square brackets -/

/-- A list. -/
def listDisplay : Reader Expr := expression do
  discard (mark .openBracket)
  let items ← optional (starNamedExpressions sub)
  discard (mark .closeBracket)
  return .list (items.getD [])

/-- A comprehension that makes a list. -/
def listComprehension : Reader Expr :=
  (expression do
    discard (mark .openBracket)
    let item ← namedExpression sub
    let found ← clauses sub
    discard (mark .closeBracket)
    return .listComprehension item found) <|>
  faults (comprehensionFaults sub)

/-! ## Curly brackets -/

/-- A key with its value. -/
def keyValue : Reader (Expr × Expr) := do
  let key ← sub .expression
  discard (mark .colon)
  return (key, ← sub .expression)

/-- An entry of a dictionary. -/
def dictItem : Reader DictItem :=
  (do
    discard (mark .doubleStar)
    return .spread (← sub .bitwiseOr)) <|>
  (do
    let (key, value) ← keyValue sub
    return .pair key value)

/-- Known faults of the value behind a key. -/
def valueFaults : List (Reader Unit) := [
  do
    discard (sub .expression)
    discard (mark .colon)
    let star ← mark .star
    discard (sub .bitwiseOr)
    refuseToken star .starredValue,
  do
    discard (sub .expression)
    let colon ← mark .colon
    ahead (mark .closeBrace <|> mark .comma)
    refuseToken colon .missingValue]

/-- Known faults of an entry behind others. -/
def laterItemFaults : List (Reader Unit) :=
  (do
    let key ← sub .expression
    notAhead (mark .colon)
    refuseExpr key .missingColon) ::
  valueFaults sub

/-- Known faults of the entries of a dictionary. -/
def itemFaults : List (Reader Unit) :=
  (do
    discard (separated (mark .comma) (dictItem sub))
    discard (mark .comma)
    firstOf (laterItemFaults sub)) ::
  valueFaults sub

/-- A dictionary.  The faults of its entries are looked for in either mood. -/
def dictDisplay : Reader Expr :=
  (expression do
    discard (mark .openBrace)
    let items ← optional (commaSeparated (dictItem sub))
    discard (mark .closeBrace)
    return .dict (items.getD [])) <|>
  (do
    discard (mark .openBrace)
    firstOf (itemFaults sub)
    nothing)

/-- A set. -/
def setDisplay : Reader Expr := expression do
  discard (mark .openBrace)
  let items ← starNamedExpressions sub
  discard (mark .closeBrace)
  return .set items

/-- A comprehension that makes a dictionary. -/
def dictComprehension : Reader Expr :=
  (expression do
    discard (mark .openBrace)
    let (key, value) ← keyValue sub
    let found ← clauses sub
    discard (mark .closeBrace)
    return .dictComprehension key value found) <|>
  faults [do
    discard (mark .openBrace)
    let stars ← mark .doubleStar
    discard (sub .bitwiseOr)
    discard (clauses sub)
    discard (mark .closeBrace)
    refuseToken stars .spreadComprehension]

/-- A comprehension that makes a set. -/
def setComprehension : Reader Expr :=
  (expression do
    discard (mark .openBrace)
    let item ← namedExpression sub
    let found ← clauses sub
    discard (mark .closeBrace)
    return .setComprehension item found) <|>
  faults (comprehensionFaults sub)

/-- Anything in brackets of its own. -/
def display : Reader Expr := do
  let token ← peek
  match token.kind with
  | .mark .openParen => tupleDisplay sub <|> group sub <|> generatorDisplay sub
  | .mark .openBracket => listDisplay sub <|> listComprehension sub
  | .mark .openBrace =>
    dictDisplay sub <|> setDisplay sub <|> dictComprehension sub <|> setComprehension sub
  | _ => nothing

end AdjointSynthesis.Code.Grammar

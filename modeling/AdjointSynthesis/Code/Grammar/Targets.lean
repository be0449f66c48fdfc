import AdjointSynthesis.Code.Grammar.Expressions

/-!
# Targets in the grammar

What may be assigned to, deleted or annotated.  A target is an attribute or a subscript of a value,
a name, or targets in brackets.
-/

namespace AdjointSynthesis.Code.Grammar

open Reader

variable (sub : Grammar)

/-! ## Attributes and subscripts as targets -/

/-- Whether an attribute, a call or a subscript follows. -/
def extensionAhead : Reader Token :=
  mark .openParen <|> mark .openBracket <|> mark .dot

/-- A value with an attribute, a call or a subscript behind it. -/
def extended (reader : Reader Expr) : Reader Expr := do
  let found ← reader
  ahead extensionAhead
  return found

/-- The value that a target is an attribute or subscript of. -/
def targetPrimaryRule : Reader Expr := do
  let start ← here
  let first ← extended (atom sub)
  iterate (fun value =>
    extended (attributeOf start value) <|> extended (subscriptOf sub start value) <|>
      extended (callOf sub start value)) first

/-- An attribute or a subscript that nothing extends. -/
def partTarget : Reader Expr := do
  let start ← here
  (do
    let value ← sub .targetPrimary
    let found ← attributeOf start value
    notAhead extensionAhead
    return found) <|>
  (do
    let value ← sub .targetPrimary
    let found ← subscriptOf sub start value
    notAhead extensionAhead
    return found)

/-! ## Assignment -/

/-- A target of an assignment, which may have a star. -/
def starTargetRule : Reader Expr :=
  (expression do
    discard (mark .star)
    notAhead (mark .star)
    return .starred (← sub .starTarget)) <|>
  sub .targetAtom

/-- Targets in round brackets. -/
def tupleTarget : Reader Expr := expression do
  discard (mark .openParen)
  let items ← optional do
    let first ← sub .starTarget
    let more ← many do
      discard (mark .comma)
      sub .starTarget
    let trailing ← optional (mark .comma)
    if more.isEmpty && trailing.isNone then nothing
    else return first :: more
  discard (mark .closeParen)
  return .tuple (items.getD [])

/-- Targets in square brackets. -/
def listTarget : Reader Expr := expression do
  discard (mark .openBracket)
  let items ← optional (commaSeparated (sub .starTarget))
  discard (mark .closeBracket)
  return .list (items.getD [])

/-- A target of an assignment without a star. -/
def targetAtomRule : Reader Expr :=
  partTarget sub <|> nameExpression <|>
  (do
    discard (mark .openParen)
    let found ← sub .targetAtom
    discard (mark .closeParen)
    return found) <|>
  tupleTarget sub <|> listTarget sub

/-- A target that is no list or tuple. -/
def singleTargetRule : Reader Expr :=
  partTarget sub <|> nameExpression <|> do
    discard (mark .openParen)
    let found ← sub .singleTarget
    discard (mark .closeParen)
    return found

/-! ## Deletion -/

/-- Targets of a deletion with commas between them. -/
def deleteTargets : Reader (List Expr) := commaSeparated (sub .deleteTarget)

/-- A target of a deletion. -/
def deleteTargetRule : Reader Expr :=
  partTarget sub <|> nameExpression <|>
  (do
    discard (mark .openParen)
    let found ← sub .deleteTarget
    discard (mark .closeParen)
    return found) <|>
  (expression do
    discard (mark .openParen)
    let items ← optional (deleteTargets sub)
    discard (mark .closeParen)
    return .tuple (items.getD [])) <|>
  (expression do
    discard (mark .openBracket)
    let items ← optional (deleteTargets sub)
    discard (mark .closeBracket)
    return .list (items.getD []))

/-! ## Annotation -/

/-- A list or tuple, perhaps in brackets, where one target alone can be annotated. -/
def annotatedGroupRule : Reader Expr :=
  listDisplay sub <|> tupleDisplay sub <|> do
    discard (mark .openParen)
    let found ← sub .annotatedGroup
    discard (mark .closeParen)
    return found

/-- A target that is annotated without counting as a plain name. -/
def annotatedTarget : Reader Expr :=
  (do
    discard (mark .openParen)
    let found ← sub .singleTarget
    discard (mark .closeParen)
    return found) <|>
  partTarget sub

end AdjointSynthesis.Code.Grammar

import AdjointSynthesis.Code.Grammar.Targets

/-!
# Statements on one line

Assignments, imports and the other statements that hold no block.  Several of them may stand on a
line, with semicolons between them.
-/

namespace AdjointSynthesis.Code.Grammar

open Reader

variable (sub : Grammar)

/-! ## Assignments -/

/-- The operator of an augmented assignment. -/
def augmentation : Reader BinaryOperator := do
  let token ← peek
  match token.kind with
  | .mark (.augmented operator) => do
    skip
    return operator
  | _ => nothing

/-- The annotation of a target and the value assigned to it, if any. -/
def annotationOf (target : Expr) (simple : Bool) : Reader StmtForm := do
  discard (mark .colon)
  let hint ← sub .expression
  let value ← optional do
    discard (mark .assign)
    yieldOrExpressions sub
  return .annotate target hint value simple

/-- A target with an equals sign. -/
def assignedTarget : Reader Expr := do
  let target ← starTargets sub
  discard (mark .assign)
  return target

/-- Known faults of assignments. -/
def assignmentFaults : List (Reader Unit) := [
  do
    let target ← sub .annotatedGroup
    discard (mark .colon)
    discard (sub .expression)
    refuseExpr target (.annotateMany target.describe),
  do
    let first ← starNamedExpression sub
    discard (mark .comma)
    discard (many (starNamedExpressions sub))
    discard (mark .colon)
    discard (sub .expression)
    refuseExpr first (.annotateMany "tuple"),
  do
    let target ← sub .expression
    discard (mark .colon)
    discard (sub .expression)
    refuseExpr target .annotate,
  do
    discard (many (assignedTarget sub))
    let target ← starExpressions sub
    discard (mark .assign)
    match target.badTarget? .assign with
    | some bad => refuseExpr bad (.assign bad.describe)
    | none => return (),
  do
    discard (many (assignedTarget sub))
    let target ← yieldExpression sub
    discard (mark .assign)
    refuseExpr target .assignYield,
  do
    let target ← starExpressions sub
    discard augmentation
    discard (yieldOrExpressions sub)
    refuseExpr target (.augment target.describe)]

/-- An assignment.  Behind the operator of an augmented one no other reading counts. -/
def assignment : Reader StmtForm := settle <|
  unsettled (do annotationOf sub (← nameExpression) true) <|>
  unsettled (do annotationOf sub (← annotatedTarget sub) false) <|>
  unsettled (do
    let targets ← many1 (assignedTarget sub)
    let value ← yieldOrExpressions sub
    notAhead (mark .assign)
    return .assign targets value) <|>
  committed
    (do
      let target ← sub .singleTarget
      return (target, ← augmentation))
    (fun (target, operator) => do
      return .augment target operator (← yieldOrExpressions sub)) <|>
  faults (assignmentFaults sub)

/-! ## Deletion -/

/-- A deletion. -/
def deletion : Reader StmtForm :=
  (do
    discard (word .del_)
    let targets ← deleteTargets sub
    ahead (discard (mark .semicolon) <|> discard lineEnd)
    return .delete targets) <|>
  faults [do
    discard (word .del_)
    let target ← starExpressions sub
    match target.badTarget? .delete with
    | some bad => refuseExpr bad (.delete bad.describe)
    | none => return ()]

/-! ## Imports -/

/-- The name that an import is bound to instead. -/
def aliasName : Reader (Option String) := optional do
  discard (word .as_)
  identifier

/-- Names with points between them. -/
def dottedName : Reader String := do
  return ".".intercalate (← separated (mark .dot) identifier)

/-- An import of modules. -/
def importStatement : Reader StmtForm := do
  discard (word .import_)
  return .importing (← separated (mark .comma) do
    let name ← dottedName
    return ⟨name, ← aliasName⟩)

/-- The points before a module, counted. -/
def leadingPoint : Reader Nat :=
  (do discard (mark .dot); return 1) <|> (do discard (mark .ellipsis); return 3)

/-- Names to import from a module. -/
def importedNames : Reader (List ImportedName) := separated (mark .comma) do
  let name ← identifier
  return ⟨name, ← aliasName⟩

/-- What is imported from a module. -/
def importTargets : Reader (List ImportedName) :=
  (do
    discard (mark .openParen)
    let names ← importedNames
    discard (optional (mark .comma))
    discard (mark .closeParen)
    return names) <|>
  (do
    let names ← importedNames
    notAhead (mark .comma)
    return names) <|>
  (do
    discard (mark .star)
    return [⟨"*", none⟩]) <|>
  faults [do
    discard importedNames
    discard (mark .comma)
    discard lineEnd
    refuse .importComma]

/-- An import from a module. -/
def importFromStatement : Reader StmtForm :=
  (do
    discard (word .from_)
    let points ← many leadingPoint
    let name ← dottedName
    discard (word .import_)
    return .importingFrom (some name) (← importTargets) (points.foldl (· + ·) 0)) <|>
  (do
    discard (word .from_)
    let points ← many1 leadingPoint
    discard (word .import_)
    return .importingFrom none (← importTargets) (points.foldl (· + ·) 0))

/-! ## Other statements -/

/-- A return. -/
def returnStatement : Reader StmtForm := do
  discard (word .return_)
  return .returning (← optional (starExpressions sub))

/-- The raising of an exception. -/
def raiseStatement : Reader StmtForm := do
  discard (word .raise_)
  (do
    let raised ← sub .expression
    let cause ← optional do
      discard (word .from_)
      sub .expression
    return .raising (some raised) cause) <|>
  return .raising none none

/-- An assertion. -/
def assertStatement : Reader StmtForm := do
  discard (word .assert_)
  let condition ← sub .expression
  let message ← optional do
    discard (mark .comma)
    sub .expression
  return .assertion condition message

/-- Names behind a word that declares them. -/
def declaredNames (keyword : Keyword) : Reader (List String) := do
  discard (word keyword)
  separated (mark .comma) identifier

/-- A statement that is one word. -/
def wordStatement (keyword : Keyword) (form : StmtForm) : Reader StmtForm := do
  discard (word keyword)
  return form

/-- A statement without a block. -/
def simpleStatement : Reader Stmt := statement <|
  assignment sub <|>
  (do return .expression (← starExpressions sub)) <|>
  returnStatement sub <|>
  importStatement <|> importFromStatement <|>
  raiseStatement sub <|>
  wordStatement .pass_ .pass <|>
  deletion sub <|>
  (do return .expression (← yieldExpression sub)) <|>
  assertStatement sub <|>
  wordStatement .break_ .breaking <|>
  wordStatement .continue_ .continuing <|>
  (do return .declareGlobal (← declaredNames .global_)) <|>
  (do return .declareNonlocal (← declaredNames .nonlocal_))

/-- A line of statements. -/
def simpleStatements : Reader (List Stmt) := do
  let found ← separated (mark .semicolon) (simpleStatement sub)
  discard (optional (mark .semicolon))
  discard lineEnd
  return found

end AdjointSynthesis.Code.Grammar

import AdjointSynthesis.Code.Grammar.Terminals

/-!
# Lists of expressions, comprehensions and arguments

What stands between brackets: expressions with commas, the clauses of comprehensions, and the
arguments of calls.
-/

namespace AdjointSynthesis.Code.Grammar

open Reader

variable (sub : Grammar)

/-! ## Expressions in a row -/

/-- One expression or a tuple without stars. -/
def expressions : Reader Expr := tupled (sub .expression)

/-- One expression or a tuple, where an item may have a star. -/
def starExpressions : Reader Expr := tupled (sub .starExpression)

/-- A name that is bound to the value of an expression. -/
def assignmentExpression : Reader Expr := expression do
  let target ← nameExpression
  discard (mark .walrus)
  return .assignment target (← sub .expression)

/-- An expression that no walrus follows. -/
def unboundExpression : Reader Expr := do
  let found ← sub .expression
  notAhead (mark .walrus)
  return found

/-- An expression that may bind a name. -/
def namedExpression : Reader Expr :=
  assignmentExpression sub <|> faults [sub .namedFault] <|> unboundExpression sub

/-- An expression in a display, which may have a star or bind a name. -/
def starNamedExpression : Reader Expr :=
  (expression do
    discard (mark .star)
    return .starred (← sub .bitwiseOr)) <|>
  namedExpression sub

/-- The items of a display. -/
def starNamedExpressions : Reader (List Expr) := commaSeparated (starNamedExpression sub)

/-- A yield. -/
def yieldExpression : Reader Expr := expression do
  discard (word .yield_)
  (do
    discard (word .from_)
    return .yieldFrom (← sub .expression)) <|>
  (do return .yield (← optional (starExpressions sub)))

/-- A yield or expressions. -/
def yieldOrExpressions : Reader Expr := yieldExpression sub <|> starExpressions sub

/-! ## Comprehensions -/

/-- The targets of an assignment or loop. -/
def starTargets : Reader Expr := tupled (sub .starTarget)

/-- Known faults of the targets of a loop. -/
def loopTargetFaults : List (Reader Unit) := [do
  discard (optional (word .async_))
  discard (word .for_)
  let found ← starExpressions sub
  match found.badTarget? .loop with
  | some bad => refuseExpr bad (.assign bad.describe)
  | none => return ()]

/-- The head of a clause; no other reading counts behind it. -/
def clauseHead (isAsync : Bool) : Reader (Bool × Expr) := do
  if isAsync then discard (word .async_)
  discard (word .for_)
  let target ← starTargets sub
  discard (word .in_)
  return (isAsync, target)

/-- The rest of a clause. -/
def clauseTail (head : Bool × Expr) : Reader Clause := do
  let source ← sub .disjunction
  let conditions ← many (do discard (word .if_); sub .disjunction)
  return .mk head.1 head.2 source conditions

/-- A clause of a comprehension. -/
def clause : Reader Clause :=
  settle (committed (clauseHead sub true) (clauseTail sub) <|>
    committed (clauseHead sub false) (clauseTail sub) <|>
    faults (loopTargetFaults sub))

/-- The clauses of a comprehension. -/
def clauses : Reader (List Clause) := many1 (clause sub)

/-! ## Arguments of calls -/

/-- An argument with a star. -/
def starredArgument : Reader Expr := expression do
  discard (mark .star)
  return .starred (← sub .expression)

/-- The word of a constant that cannot be a keyword. -/
def constantWord : Reader (Token × String) :=
  (do return (← word .true_, "True")) <|>
  (do return (← word .false_, "False")) <|>
  (do return (← word .none_, "None"))

/-- Known faults of an argument passed by keyword. -/
def keywordFaults : List (Reader Unit) := [
  do
    let (token, shown) ← constantWord
    discard (mark .assign)
    refuseToken token (.assign shown),
  do
    let name ← nameToken
    discard (mark .assign)
    discard (sub .expression)
    discard (clauses sub)
    refuseToken name .equalsSign,
  do
    notAhead (do discard nameToken; mark .assign)
    let found ← sub .expression
    discard (mark .assign)
    refuseExpr found .equalsInArgument]

/-- An argument passed by keyword. -/
def keywordArgument : Reader KeywordArgument := do
  let (span, name, value) ← spanned do
    let name ← identifier
    discard (mark .assign)
    return (name, ← sub .expression)
  return .mk span (some name) value

/-- An argument that spreads a mapping. -/
def spreadArgument : Reader KeywordArgument := do
  let (span, value) ← spanned do
    discard (mark .doubleStar)
    sub .expression
  return .mk span none value

/-- An argument behind the first one passed by keyword. -/
inductive LateArgument where
  | positional (value : Expr)
  | keyword (argument : KeywordArgument)

/-- An argument by keyword or with a star. -/
def keywordOrStarred : Reader LateArgument :=
  faults (keywordFaults sub) <|>
  (do return .keyword (← keywordArgument sub)) <|>
  (do return .positional (← starredArgument sub))

/-- An argument by keyword or with two stars. -/
def keywordOrSpread : Reader LateArgument :=
  faults (keywordFaults sub) <|>
  (do return .keyword (← keywordArgument sub)) <|>
  (do return .keyword (← spreadArgument sub))

/-- The arguments from the first one passed by keyword on. -/
def lateArguments : Reader (List LateArgument) :=
  (do
    let first ← separated (mark .comma) (keywordOrStarred sub)
    discard (mark .comma)
    return first ++ (← separated (mark .comma) (keywordOrSpread sub))) <|>
  separated (mark .comma) (keywordOrStarred sub) <|>
  separated (mark .comma) (keywordOrSpread sub)

/-- An argument passed by position. -/
def positionalArgument : Reader Expr :=
  starredArgument sub <|> (do
    let found ← assignmentExpression sub <|> unboundExpression sub
    notAhead (mark .assign)
    return found)

/-- The arguments of a call, collected. -/
def collect (line : Nat) (positional : List Expr) (late : List LateArgument) : Arguments where
  line := line
  positional := positional ++ late.filterMap fun
    | .positional value => some value
    | .keyword _ => none
  keywords := late.filterMap fun
    | .positional _ => none
    | .keyword argument => some argument

/-- The arguments of a call. -/
def argumentList : Reader Arguments := do
  let start ← here
  (do
    let positional ← separated (mark .comma) (positionalArgument sub)
    let late ← optional (do discard (mark .comma); lateArguments sub)
    return collect start.line positional (late.getD [])) <|>
  (do return collect start.line [] (← lateArguments sub))

/-- Known faults of arguments. -/
def argumentFaults : List (Reader Unit) := [
  do
    let found ← argumentList sub
    discard (mark .comma)
    discard (mark .star)
    refuseOn found.line .unpackingAfterSpread,
  do
    let item ← sub .expression
    discard (clauses sub)
    discard (mark .comma)
    discard (optional (discard (argumentList sub) <|> (do
      discard (sub .expression)
      discard (clauses sub))))
    refuseExpr item .bareGenerator,
  do
    let name ← nameToken
    discard (mark .assign)
    discard (sub .expression)
    discard (clauses sub)
    refuseToken name .equalsSign,
  do
    let found ← argumentList sub
    discard (clauses sub)
    match found.positional.reverse with
    | last :: _ :: _ => refuseExpr last .bareGenerator
    | _ => return (),
  do
    discard (argumentList sub)
    discard (mark .comma)
    let item ← sub .expression
    discard (clauses sub)
    refuseExpr item .bareGenerator,
  do
    let found ← argumentList sub
    discard (mark .comma)
    discard (argumentList sub)
    let spread := found.keywords.any fun
      | .mk _ name _ => name.isNone
    refuse (if spread then .positionalAfterSpread else .positionalAfterKeyword)]

/-- The arguments up to the bracket that closes them. -/
def argumentsRule : Reader Arguments :=
  (do
    let found ← argumentList sub
    discard (optional (mark .comma))
    ahead (mark .closeParen)
    return found) <|>
  faults (argumentFaults sub)

end AdjointSynthesis.Code.Grammar

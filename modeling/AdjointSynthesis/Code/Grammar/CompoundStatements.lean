import AdjointSynthesis.Code.Grammar.Patterns
import AdjointSynthesis.Code.Grammar.SimpleStatements

/-!
# Statements with blocks

Branches, loops, handlers, matches and definitions.  Each part of such a statement is a head, a
colon and a block, and the known faults are the same for most: a head that ends its line without a
colon, and a colon behind which no block follows.
-/

namespace AdjointSynthesis.Code.Grammar

open Reader

variable (sub : Grammar)

/-! ## Blocks -/

/-- A colon that ends its line without a block behind it. -/
def missingBlock (owner : BlockOwner) (head : Token) : Reader Unit := do
  discard (mark .colon)
  discard lineEnd
  notAhead (take .indent)
  refuse (.missingBlock owner head.span.start.line)

/-- A head that ends its line without a colon. -/
def colonFault (head : Reader Token) : Reader Unit := do
  discard head
  discard lineEnd
  refuse (.expected ":")

/-- A head with a colon but without a block. -/
def blockFault (owner : BlockOwner) (head : Reader Token) : Reader Unit := do
  missingBlock owner (← head)

/-- Known faults of a head with its block. -/
def headFaults (owner : BlockOwner) (head : Reader Token) : List (Reader Unit) :=
  [colonFault head, blockFault owner head]

/-- A colon and the block behind it. -/
def blockBehind : Reader (List Stmt) := do
  discard (mark .colon)
  sub .block

/-- The block of the word else. -/
def elseBlock : Reader (List Stmt) :=
  faults [blockFault (.statement "else") (word .else_)] <|> do
    discard (word .else_)
    discard (required .colon ":")
    sub .block

/-- The block of the word else, if there is one. -/
def otherwise : Reader (List Stmt) := do return (← optional (elseBlock sub)).getD []

/-- The word async, or not. -/
def maybeAsync : Reader Bool := do return (← optional (word .async_)).isSome

/-! ## Branches and loops -/

/-- A word and a condition. -/
def conditionHead (keyword : Keyword) : Reader Token := do
  let head ← word keyword
  discard (namedExpression sub)
  return head

/-- A branch from its word on. -/
def branch (keyword : Keyword) (shown : String) : Reader Stmt :=
  faults (headFaults (.statement shown) (conditionHead sub keyword)) <|>
  (statement do
    discard (word keyword)
    let condition ← namedExpression sub
    let body ← blockBehind sub
    let next ← sub .elifBranch
    return .branch condition body [next]) <|>
  statement do
    discard (word keyword)
    let condition ← namedExpression sub
    let body ← blockBehind sub
    return .branch condition body (← otherwise sub)

/-- A loop with a condition. -/
def whileLoop : Reader Stmt :=
  faults (headFaults (.statement "while") (conditionHead sub .while_)) <|>
  statement do
    discard (word .while_)
    let condition ← namedExpression sub
    let body ← blockBehind sub
    return .whileLoop condition body (← otherwise sub)

/-- The head of a loop over values, as the search for faults reads it. -/
def forHead : Reader Token := do
  discard maybeAsync
  let head ← word .for_
  discard (starTargets sub)
  discard (word .in_)
  discard (starExpressions sub)
  return head

/-- A loop over values.  Behind its targets no other reading counts. -/
def forLoop : Reader Stmt := do
  let start ← here
  settle <|
    faults (headFaults (.statement "for") (forHead sub)) <|>
    committed (clauseHead sub false) (loopBehind start) <|>
    committed (clauseHead sub true) (loopBehind start) <|>
    faults (loopTargetFaults sub)
where
  /-- The rest of a loop that starts at a place. -/
  loopBehind (start : Place) (head : Bool × Expr) : Reader Stmt := do
    let source ← starExpressions sub
    let body ← blockBehind sub
    let rest ← otherwise sub
    return .mk (← spanFrom start) (.forLoop head.1 head.2 source body rest)

/-! ## Managers -/

/-- What may stand behind the target of a manager. -/
def managerEnd : Reader Unit :=
  ahead (mark .comma <|> mark .closeParen <|> mark .colon)

/-- A manager with its target. -/
def manager : Reader Manager :=
  (do
    let value ← sub .expression
    discard (word .as_)
    let target ← sub .starTarget
    managerEnd
    return ⟨value, some target⟩) <|>
  faults [do
    discard (sub .expression)
    discard (word .as_)
    let target ← sub .expression
    managerEnd
    match target.badTarget? .assign with
    | some bad => refuseExpr bad (.assign bad.describe)
    | none => return ()] <|>
  do return ⟨← sub .expression, none⟩

/-- The head of a with statement, as the search for faults reads it. -/
def withHead : Reader Token := do
  discard maybeAsync
  let head ← word .with_
  discard (separated (mark .comma) (managed (sub .expression)))
  return head
where
  /-- A value that may have a target behind it. -/
  managed (value : Reader Expr) : Reader Unit := do
    discard value
    discard (optional do
      discard (word .as_)
      sub .starTarget)

/-- The head of a with statement with brackets, as the search for faults reads it. -/
def groupedWithHead : Reader Token := do
  discard maybeAsync
  let head ← word .with_
  discard (mark .openParen)
  discard (separated (mark .comma) (withHead.managed sub (expressions sub)))
  discard (optional (mark .comma))
  discard (mark .closeParen)
  return head

/-- A with statement without the word async. -/
def withForm (isAsync : Bool) : Reader StmtForm :=
  (do
    if isAsync then discard (word .async_)
    discard (word .with_)
    discard (mark .openParen)
    let managers ← commaSeparated (manager sub)
    discard (mark .closeParen)
    return .withBlock isAsync managers (← blockBehind sub)) <|>
  (do
    if isAsync then discard (word .async_)
    discard (word .with_)
    let managers ← separated (mark .comma) (manager sub)
    return .withBlock isAsync managers (← blockBehind sub))

/-- A with statement. -/
def withStatement : Reader Stmt :=
  faults [blockFault (.statement "with") (withHead sub),
    blockFault (.statement "with") (groupedWithHead sub)] <|>
  statement (withForm sub false <|> withForm sub true) <|>
  faults [colonFault (withHead sub), colonFault (groupedWithHead sub)]

/-! ## Handlers -/

/-- The name that a handler gives to what it catches. -/
def caughtName : Reader (Option String) := optional do
  discard (word .as_)
  identifier

/-- The head of a handler with a type. -/
def typedHead (isGroup : Bool) : Reader Token := do
  let head ← word .except_
  if isGroup then discard (mark .star)
  discard (sub .expression)
  discard caughtName
  return head

/-- Known faults of handlers. -/
def handlerFaults : List (Reader Unit) := [
  do
    discard (word .except_)
    discard (optional (mark .star))
    let first ← sub .expression
    discard (mark .comma)
    discard (expressions sub)
    discard caughtName
    discard (mark .colon)
    refuseExpr first .manyTypes,
  do
    discard (word .except_)
    discard (optional (mark .star))
    discard (sub .expression)
    discard caughtName
    discard lineEnd
    refuse (.expected ":"),
  colonFault (word .except_),
  do
    discard (word .except_)
    discard (mark .star)
    discard lineEnd <|> discard (mark .colon)
    refuse .missingTypes]

/-- A handler with the span it was read from. -/
def handlerOf (reader : Reader (Option Expr × Option String × List Stmt)) : Reader Handler := do
  let (span, type, name, body) ← spanned reader
  return .mk span type name body

/-- A handler with a type. -/
def typedHandler (isGroup : Bool) : Reader Handler := handlerOf do
  discard (word .except_)
  if isGroup then discard (mark .star)
  let type ← sub .expression
  let name ← caughtName
  return (some type, name, ← blockBehind sub)

/-- A handler of single exceptions. -/
def plainHandler : Reader Handler :=
  faults [blockFault (.statement "except") (typedHead sub false),
    blockFault (.statement "except") (word .except_)] <|>
  typedHandler sub false <|>
  handlerOf (do
    discard (word .except_)
    return (none, none, ← blockBehind sub)) <|>
  faults (handlerFaults sub)

/-- A handler of groups of exceptions. -/
def groupHandler : Reader Handler :=
  faults [blockFault (.statement "except*") (typedHead sub true)] <|>
  typedHandler sub true <|>
  faults (handlerFaults sub)

/-- The block of the word finally. -/
def finallyBlock : Reader (List Stmt) :=
  faults [blockFault (.statement "finally") (word .finally_)] <|> do
    discard (word .finally_)
    discard (required .colon ":")
    sub .block

/-- The word try and its block. -/
def tried : Reader (List Stmt) := do
  discard (word .try_)
  discard (required .colon ":")
  sub .block

/-- Known faults of try statements. -/
def tryFaults : List (Reader Unit) := [
  blockFault (.statement "try") (word .try_),
  do
    discard (word .try_)
    discard (blockBehind sub)
    notAhead (word .except_ <|> word .finally_)
    refuse .missingHandler,
  do
    discard (word .try_)
    discard (mark .colon)
    discard (many (sub .block))
    (do
      discard (many1 (plainHandler sub))
      discard (groupHandler sub)) <|>
    (do
      discard (many1 (groupHandler sub))
      discard (plainHandler sub))
    discard (many (sub .block))
    refuse .mixedHandlers]

/-- A try statement with handlers. -/
def handled (isGroup : Bool) (handler : Reader Handler) : Reader StmtForm := do
  let body ← tried sub
  let handlers ← many1 handler
  let rest ← otherwise sub
  let last ← optional (finallyBlock sub)
  return .trying isGroup body handlers rest (last.getD [])

/-- A try statement. -/
def tryStatement : Reader Stmt :=
  faults (tryFaults sub) <|>
  statement (
    (do
      let body ← tried sub
      return .trying false body [] [] (← finallyBlock sub)) <|>
    handled sub false (plainHandler sub) <|>
    handled sub true (groupHandler sub))

/-! ## Matches -/

/-- The value that is matched. -/
def subject : Reader Expr :=
  (expression do
    let first ← starNamedExpression sub
    discard (mark .comma)
    let more ← optional (starNamedExpressions sub)
    return .tuple (first :: more.getD [])) <|>
  namedExpression sub

/-- The head of a match. -/
def matchHead : Reader Token := do
  let head ← softWord "match".toList
  discard (subject sub)
  return head

/-- The guard of a case. -/
def guardOf : Reader (Option Expr) := optional do
  discard (word .if_)
  namedExpression sub

/-- The head of a case. -/
def caseHead : Reader Token := do
  let head ← softWord "case".toList
  discard (casePattern sub)
  discard (guardOf sub)
  return head

/-- A case of a match. -/
def matchCase : Reader MatchCase :=
  faults (headFaults (.statement "case") (caseHead sub)) <|> do
    discard (softWord "case".toList)
    let pattern ← casePattern sub
    let guard_ ← guardOf sub
    return .mk pattern guard_ (← blockBehind sub)

/-- A match. -/
def matchStatement : Reader Stmt :=
  (statement do
    discard (softWord "match".toList)
    let value ← subject sub
    discard (mark .colon)
    discard lineEnd
    discard (take .indent)
    let cases ← many1 (matchCase sub)
    discard (take .dedent)
    return .matching value cases) <|>
  faults (headFaults (.statement "match") (matchHead sub))

/-! ## Definitions -/

/-- Decorators, each on a line of its own. -/
def decorators : Reader (List Expr) := many1 do
  discard (mark .at_)
  let found ← namedExpression sub
  discard lineEnd
  return found

/-- The annotation of what a function returns. -/
def returnHint : Reader (Option Expr) := optional do
  discard (mark .arrow)
  sub .expression

/-- The head of a function, as the search for faults reads it. -/
def functionHead : Reader Token := do
  discard maybeAsync
  let head ← word .def_
  discard nameToken
  discard (mark .openParen)
  discard (optional (parameters sub .function))
  discard (mark .closeParen)
  discard (returnHint sub)
  return head

/-- A function behind its decorators. -/
def functionForm (isAsync : Bool) (decoration : List Expr) : Reader StmtForm := do
  if isAsync then discard (word .async_)
  discard (word .def_)
  let name ← identifier
  discard (required .openParen "(")
  let found ← optional (parameters sub .function)
  discard (mark .closeParen)
  let hint ← returnHint sub
  discard (required .colon ":")
  let body ← sub .block
  return .function isAsync name (found.getD .none) body decoration hint

/-- A function without its decorators. -/
def undecoratedFunction (decoration : List Expr) : Reader Stmt :=
  faults [blockFault .functionDefinition (functionHead sub)] <|>
  statement (functionForm sub false decoration <|> functionForm sub true decoration)

/-- A function. -/
def functionDefinition : Reader Stmt :=
  (do undecoratedFunction sub (← decorators sub)) <|> undecoratedFunction sub []

/-- The bases of a class. -/
def bases : Reader (Option (Option Arguments)) := optional do
  discard (mark .openParen)
  let found ← optional (sub .arguments)
  discard (mark .closeParen)
  return found

/-- The head of a class. -/
def classHead : Reader Token := do
  let head ← word .class_
  discard nameToken
  discard (bases sub)
  return head

/-- A class without its decorators. -/
def undecoratedClass (decoration : List Expr) : Reader Stmt :=
  faults (headFaults .classDefinition (classHead sub)) <|>
  statement do
    discard (word .class_)
    let name ← identifier
    let found := (← bases sub).join.getD ⟨0, [], []⟩
    let body ← blockBehind sub
    return .classDefinition name found.positional found.keywords body decoration

/-- A class. -/
def classDefinition : Reader Stmt :=
  (do undecoratedClass sub (← decorators sub)) <|> undecoratedClass sub []

/-! ## Statements in a row -/

/-- Reads on only if one of some words comes next, which is not taken. -/
def behindWord {α : Type} (words : List Token.Kind) (reader : Reader α) : Reader α := do
  let token ← peek
  if words.contains token.kind then reader else nothing

/-- A statement with a block. -/
def compoundStatement : Reader Stmt :=
  behindWord [.keyword .def_, .mark .at_, .keyword .async_] (functionDefinition sub) <|>
  behindWord [.keyword .if_] (branch sub .if_ "if") <|>
  behindWord [.keyword .class_, .mark .at_] (classDefinition sub) <|>
  behindWord [.keyword .with_, .keyword .async_] (withStatement sub) <|>
  behindWord [.keyword .for_, .keyword .async_] (forLoop sub) <|>
  behindWord [.keyword .try_] (tryStatement sub) <|>
  behindWord [.keyword .while_] (whileLoop sub) <|>
  matchStatement sub

/-- Statements in a row. -/
def statements : Reader (List Stmt) := do
  return (← many1 ((do return [← compoundStatement sub]) <|> simpleStatements sub)).flatten

/-- The block behind a colon: lines further in, or the rest of the line. -/
def blockRule : Reader (List Stmt) :=
  (do
    discard lineEnd
    discard (take .indent)
    let found ← statements sub
    discard (take .dedent)
    return found) <|>
  simpleStatements sub <|>
  faults [do
    discard lineEnd
    notAhead (take .indent)
    refuse .missingIndent]

/-- A branch behind the word elif. -/
def elifRule : Reader Stmt := branch sub .elif_ "elif"

/-- A whole program. -/
def program : Reader (List Stmt) := do
  let found ← optional (statements sub)
  discard (take .finish)
  return found.getD []

end AdjointSynthesis.Code.Grammar

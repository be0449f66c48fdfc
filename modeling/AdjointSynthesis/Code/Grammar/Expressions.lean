import AdjointSynthesis.Code.Grammar.Displays
import AdjointSynthesis.Code.Grammar.Parameters
import AdjointSynthesis.Code.Grammar.Texts

/-!
# Expressions

From the words that stand for themselves up to conditional expressions, in the order in which
operators bind: the tightest first.
-/

namespace AdjointSynthesis.Code.Grammar

open Reader

variable (sub : Grammar)

/-! ## Words and brackets -/

/-- The greatest count of digits of a whole number in base ten. -/
def mostDigits : Nat := 4300

/-- The count of digits of a whole number, if it is written in base ten. -/
def wholeDigits? (written : List Char) : Option Nat :=
  if written.all fun c => c.isDigit || c == '_' then some (written.countP Char.isDigit) else none

/-- A number. -/
def numberForm : Reader Form := do
  let token ← take .number
  match wholeDigits? token.written with
  | some count =>
    if mostDigits < count then refuseToken token (.tooManyDigits count)
    else return .constant (.number (String.ofList token.written))
  | none => return .constant (.number (String.ofList token.written))

/-- The value of a reserved word that is a constant. -/
def constantForm : Reader Form :=
  (do discard (word .true_); return .constant (.truth true)) <|>
  (do discard (word .false_); return .constant (.truth false)) <|>
  (do discard (word .none_); return .constant .absent)

/-- What expressions are built from. -/
def atom : Reader Expr :=
  nameExpression <|> expression constantForm <|> sub .text <|> expression numberForm <|>
  display sub <|>
  expression do
    discard (mark .ellipsis)
    return .constant .ellipsis

/-! ## Attributes, calls and subscripts -/

/-- A part of a subscript. -/
def slice : Reader Expr :=
  (expression do
    let lower ← optional (sub .expression)
    discard (mark .colon)
    let upper ← optional (sub .expression)
    let step ← optional do
      discard (mark .colon)
      optional (sub .expression)
    return .slice lower upper step.join) <|>
  namedExpression sub

/-- What stands between the brackets of a subscript. -/
def slices : Reader Expr :=
  (do
    let found ← slice sub
    notAhead (mark .comma)
    return found) <|>
  expression do return .tuple (← commaSeparated (slice sub <|> starredArgument sub))

/-- An attribute of a value that starts at a place. -/
def attributeOf (start : Place) (value : Expr) : Reader Expr := do
  discard (mark .dot)
  let name ← identifier
  return .mk (← spanFrom start) (.attribute value name)

/-- A call of a value that starts at a place. -/
def callOf (start : Place) (value : Expr) : Reader Expr :=
  (do
    let argument ← generatorDisplay sub
    return .mk (← spanFrom start) (.call value [argument] [])) <|>
  (do
    discard (mark .openParen)
    let found ← optional (sub .arguments)
    discard (mark .closeParen)
    let found := found.getD ⟨start.line, [], []⟩
    return .mk (← spanFrom start) (.call value found.positional found.keywords))

/-- A subscript of a value that starts at a place. -/
def subscriptOf (start : Place) (value : Expr) : Reader Expr := do
  discard (mark .openBracket)
  let index ← slices sub
  discard (mark .closeBracket)
  return .mk (← spanFrom start) (.subscript value index)

/-- An atom with attributes, calls and subscripts behind it. -/
def primaryRule : Reader Expr := do
  let start ← here
  let first ← atom sub
  iterate (fun value =>
    attributeOf start value <|> callOf sub start value <|> subscriptOf sub start value) first

/-! ## Operators -/

/-- A value that may be waited for. -/
def awaited : Reader Expr :=
  (expression do
    discard (word .await_)
    return .await (← sub .primary)) <|>
  sub .primary

/-- A value that may be raised to a power. -/
def power : Reader Expr := do
  let start ← here
  let base ← awaited sub
  let exponent ← optional do
    discard (mark .doubleStar)
    sub .factor
  match exponent with
  | some exponent => return .mk (← spanFrom start) (.binary .power base exponent)
  | none => return base

/-- A sign before an operand. -/
def signed (sign : Mark) (operator : UnaryOperator) (operand : Reader Expr) : Reader Expr :=
  expression do
    discard (mark sign)
    return .unary operator (← operand)

/-- A value that may have signs before it. -/
def factorRule : Reader Expr :=
  signed .plus .plus (sub .factor) <|> signed .minus .minus (sub .factor) <|>
  signed .tilde .invert (sub .factor) <|> power sub

/-- Products and quotients. -/
def term : Reader Expr := leftGrouped (sub .factor)
  (operatorMark .star .multiply <|> operatorMark .slash .divide <|>
    operatorMark .doubleSlash .floorDivide <|> operatorMark .percent .remainder <|>
    operatorMark .at_ .matrixMultiply)

/-- Sums and differences. -/
def sum : Reader Expr :=
  leftGrouped (term sub) (operatorMark .plus .add <|> operatorMark .minus .subtract)

/-- Shifts. -/
def shift : Reader Expr :=
  leftGrouped (sum sub)
    (operatorMark .shiftLeft .shiftLeft <|> operatorMark .shiftRight .shiftRight)

/-- Conjunctions of bits. -/
def bitwiseAnd : Reader Expr := leftGrouped (shift sub) (operatorMark .ampersand .bitAnd)

/-- Exclusive disjunctions of bits. -/
def bitwiseXor : Reader Expr := leftGrouped (bitwiseAnd sub) (operatorMark .caret .bitXor)

/-- Disjunctions of bits. -/
def bitwiseOrRule : Reader Expr := leftGrouped (bitwiseXor sub) (operatorMark .bar .bitOr)

/-! ## Comparisons and logic -/

/-- A relation with its right operand. -/
def related (relation : Relation) (sign : Reader Unit) : Reader Link := do
  sign
  return .mk relation (← sub .bitwiseOr)

/-- A link of a comparison chain. -/
def link : Reader Link :=
  related sub .equal (discard (mark .equal)) <|>
  related sub .notEqual (discard (mark .notEqual)) <|>
  related sub .lessEqual (discard (mark .lessEqual)) <|>
  related sub .less (discard (mark .less)) <|>
  related sub .greaterEqual (discard (mark .greaterEqual)) <|>
  related sub .greater (discard (mark .greater)) <|>
  related sub .notWithin (do discard (word .not_); discard (word .in_)) <|>
  related sub .within (discard (word .in_)) <|>
  related sub .notSame (do discard (word .is_); discard (word .not_)) <|>
  related sub .same (discard (word .is_))

/-- A comparison chain. -/
def comparison : Reader Expr := do
  let start ← here
  let first ← sub .bitwiseOr
  let links ← many (link sub)
  if links.isEmpty then return first
  else return .mk (← spanFrom start) (.comparison first links)

/-- A truth value that may be negated. -/
def inversionRule : Reader Expr :=
  (expression do
    discard (word .not_)
    return .unary .not (← sub .inversion)) <|>
  comparison sub

/-- Operands with a reserved word between them. -/
def joined (kind : Junction) (between : Keyword) (operand : Reader Expr) : Reader Expr := do
  let start ← here
  let first ← operand
  let more ← many do
    discard (word between)
    operand
  if more.isEmpty then return first
  else return .mk (← spanFrom start) (.junction kind (first :: more))

/-- Disjunctions of conjunctions. -/
def disjunctionRule : Reader Expr := joined .or .or_ (joined .and .and_ (sub .inversion))

/-! ## Whole expressions -/

/-- A conditional expression. -/
def conditional : Reader Expr := expression do
  let yes ← sub .disjunction
  discard (word .if_)
  let condition ← sub .disjunction
  discard (word .else_)
  return .conditional condition yes (← sub .expression)

/-- A lambda. -/
def lambda : Reader Expr := expression do
  discard (word .lambda_)
  let found ← optional (parameters sub .lambda)
  discard (mark .colon)
  return .lambda (found.getD .none) (← sub .expression)

/-- An expression without a look at known faults of its own. -/
def faultlessExpression : Reader Expr := conditional sub <|> sub .disjunction <|> lambda sub

/-- The names of former statements that are functions now. -/
def legacyNames : List String := ["print", "exec"]

/-- Whether an expression is the name of a former statement. -/
def isLegacyName : Expr → Bool
  | .mk _ (.name id) => legacyNames.contains id
  | _ => false

/-- Known faults of expressions. -/
def expressionFaults : List (Reader Unit) := [
  do
    notAhead ((do discard nameToken; discard (take .text)) <|> discard anySoftWord)
    let first ← sub .disjunction
    discard (plainly (faultlessExpression sub))
    if isLegacyName first then return ()
    if (← depthBehind) = 0 then return ()
    refuseExpr first .missingComma,
  do
    let first ← sub .disjunction
    discard (word .if_)
    discard (sub .disjunction)
    notAhead (discard (word .else_) <|> discard (mark .colon))
    refuseExpr first .missingElse]

/-- Known faults of calls that look like former statements. -/
def legacyFaults : List (Reader Unit) := [do
  let start ← peek
  let name ← identifier
  notAhead (mark .openParen)
  discard (starExpressions sub)
  if legacyNames.contains name then refuseToken start (.legacyCall name)
  else return ()]

/-- An expression. -/
def expressionRule : Reader Expr :=
  faults (expressionFaults sub) <|> faults (legacyFaults sub) <|> faultlessExpression sub

/-- An expression that may have a star. -/
def starExpressionRule : Reader Expr :=
  (expression do
    discard (mark .star)
    return .starred (← sub .bitwiseOr)) <|>
  sub .expression

/-- Known faults where an expression may bind a name. -/
def namedFaultRule : Reader Unit := firstOf [
  do
    let target ← sub .expression
    discard (mark .walrus)
    discard (sub .expression)
    refuseExpr target (.assignmentExpression target.describe),
  do
    let name ← nameToken
    discard (mark .assign)
    discard (sub .bitwiseOr)
    notAhead (mark .assign <|> mark .walrus)
    refuseToken name .equalsSign,
  do
    notAhead (discard (listDisplay sub) <|> discard (tupleDisplay sub) <|>
      discard (generatorDisplay sub) <|> discard constantWord)
    let target ← sub .bitwiseOr
    discard (mark .assign)
    discard (sub .bitwiseOr)
    notAhead (mark .assign <|> mark .walrus)
    refuseExpr target (.assignHere target.describe)]

end AdjointSynthesis.Code.Grammar

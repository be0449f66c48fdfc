import AdjointSynthesis.Code.Reader
import AdjointSynthesis.Text.NormalForm

/-!
# Terminals

Readers of single tokens, and the reader of each rule that others go through.
-/

namespace AdjointSynthesis.Code

/-- The readers of all rules, as a rule sees them. -/
abbrev Grammar : Type := (rule : Rule) → Reader rule.Result

namespace Grammar

open Reader

/-- Takes an operator or a piece of punctuation. -/
def mark (mark : Mark) : Reader Token := take (.mark mark)

/-- Takes a reserved word. -/
def word (keyword : Keyword) : Reader Token := take (.keyword keyword)

/-- Takes a name that is not a reserved word. -/
def nameToken : Reader Token := take .name

/-- Takes a name that is written in a certain way. -/
def softWord (written : List Char) : Reader Token := do
  let token ← nameToken
  if token.written = written then return token else nothing

/-- The names that are reserved words in places. -/
def softWords : List (List Char) := [['_'], "case".toList, "match".toList]

/-- Takes a name that is a reserved word in places, or the beginning of one. -/
def anySoftWord : Reader Token := do
  let token ← nameToken
  if softWords.any token.written.isPrefixOf then return token else nothing

/-- Takes a name; it counts in its normal form. -/
def identifier : Reader String := do
  return String.ofList (Text.normalForm (← nameToken).written)

/-- Takes a name as an expression. -/
def nameExpression : Reader Expr := expression do return .name (← identifier)

/-- Takes the end of a line. -/
def lineEnd : Reader Token := take .newline

/-- Refuses the text unless a piece of punctuation comes next. -/
def required (mark : Mark) (shown : String) : Reader Token := do
  let token ← peek
  if token.kind = .mark mark then do skip; return token
  else refuseOn token.span.start.line (.expected shown)

/-- Refuses the text at the line of an expression. -/
def refuseExpr {α : Type} (e : Expr) (cause : Cause) : Reader α := refuseOn e.line cause

/-- Refuses the text at the line of a token. -/
def refuseToken {α : Type} (token : Token) (cause : Cause) : Reader α :=
  refuseOn token.span.start.line cause

/-- Operators on two operands that group to the left. -/
def leftGrouped (operand : Reader Expr) (operator : Reader BinaryOperator) : Reader Expr := do
  let start ← here
  let first ← operand
  iterate (fun left => do
    let op ← operator
    let right ← operand
    return .mk (← spanFrom start) (.binary op left right)) first

/-- The operator that a piece of punctuation stands for. -/
def operatorMark (sign : Mark) (operator : BinaryOperator) : Reader BinaryOperator := do
  discard (mark sign)
  return operator

/-- Several values with commas between them and perhaps one behind them. -/
def commaSeparated {α : Type} (reader : Reader α) : Reader (List α) := do
  let values ← separated (mark .comma) reader
  discard (optional (mark .comma))
  return values

/-- One value, or a tuple of several when a comma follows. -/
def tupled (reader : Reader Expr) : Reader Expr := do
  let start ← here
  let first ← reader
  let more ← many (do discard (mark .comma); reader)
  let trailing ← optional (mark .comma)
  if more.isEmpty && trailing.isNone then return first
  else return .mk (← spanFrom start) (.tuple (first :: more))

end Grammar

end AdjointSynthesis.Code

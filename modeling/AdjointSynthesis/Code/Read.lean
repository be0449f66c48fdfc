import AdjointSynthesis.Code.Grammar.CompoundStatements

/-!
# Reading programs

The rules of the grammar tied together.  A rule reaches itself through a count of steps that is
larger than any nesting a text can hold, so reading ends on every text.  How deep a text may be
nested before the stack or the memory of a reader gives out is no matter of the grammar and not said
here.
-/

namespace AdjointSynthesis.Code

namespace Grammar

/-- The reader of each rule in terms of the readers of all. -/
def ofRule (sub : Grammar) : (rule : Rule) → Reader rule.Result
  | .expression => expressionRule sub
  | .starExpression => starExpressionRule sub
  | .disjunction => disjunctionRule sub
  | .inversion => inversionRule sub
  | .bitwiseOr => bitwiseOrRule sub
  | .factor => factorRule sub
  | .primary => primaryRule sub
  | .text => textRule sub
  | .arguments => argumentsRule sub
  | .namedFault => namedFaultRule sub
  | .starTarget => starTargetRule sub
  | .targetAtom => targetAtomRule sub
  | .targetPrimary => targetPrimaryRule sub
  | .singleTarget => singleTargetRule sub
  | .deleteTarget => deleteTargetRule sub
  | .annotatedGroup => annotatedGroupRule sub
  | .pattern => patternRule sub
  | .block => blockRule sub
  | .elifBranch => elifRule sub

/-- The grammar with a number of steps left. -/
def upTo : Nat → Grammar
  | 0 => fun _ => .nothing
  | steps + 1 => fun rule => .remembering rule (ofRule (upTo steps) rule)

/-- Enough steps for a text: one token of it takes less than thirty of them. -/
def stepsFor (text : List Char) : Nat := 32 * (text.length + 8)

end Grammar

/-- The statements of a program, or why a text is none. -/
def read (text : List Char) : Except Fault (List Stmt) :=
  Reader.readAll (Grammar.program (Grammar.upTo (Grammar.stepsFor text))) (.ofText text) false

/-- The one expression that a text consists of, or why it is none.  Blanks may stand before it. -/
def readExpression (text : List Char) : Except Fault Expr :=
  let sub := Grammar.upTo (Grammar.stepsFor text)
  let reader : Reader Expr := do
    let found ← Grammar.expressions sub
    discard (Reader.many Grammar.lineEnd)
    discard (Reader.take .finish)
    return found
  Reader.readAll reader (.ofText text) false

end AdjointSynthesis.Code

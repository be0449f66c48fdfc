import AdjointSynthesis.Code.Tree

/-!
# Targets

What may stand on the left of an assignment, and how a message calls what may not.  Lists and
tuples are targets when their items are; names, attributes and subscripts always are.
-/

namespace AdjointSynthesis.Code

/-- What a message calls a constant. -/
def Constant.describe : Constant → String
  | .absent => "None"
  | .truth value => if value then "True" else "False"
  | .ellipsis => "ellipsis"
  | .number _ => "literal"
  | .text _ _ => "literal"
  | .bytes _ => "literal"

/-- What a message calls an expression of a form. -/
def Form.describe : Form → String
  | .name _ => "name"
  | .constant value => value.describe
  | .template _ => "f-string expression"
  | .field _ _ _ => "f-string expression"
  | .tuple _ => "tuple"
  | .list _ => "list"
  | .set _ => "set display"
  | .dict _ => "dict literal"
  | .subscript _ _ => "subscript"
  | .attribute _ _ => "attribute"
  | .slice _ _ _ => "slice"
  | .starred _ => "starred"
  | .call _ _ _ => "function call"
  | .unary _ _ => "expression"
  | .binary _ _ _ => "expression"
  | .junction _ _ => "expression"
  | .comparison _ _ => "comparison"
  | .conditional _ _ _ => "conditional expression"
  | .lambda _ _ => "lambda"
  | .assignment _ _ => "named expression"
  | .listComprehension _ _ => "list comprehension"
  | .setComprehension _ _ => "set comprehension"
  | .dictComprehension _ _ _ => "dict comprehension"
  | .generator _ _ => "generator expression"
  | .await _ => "await expression"
  | .yield _ => "yield expression"
  | .yieldFrom _ => "yield expression"

/-- What a message calls an expression. -/
def Expr.describe (e : Expr) : String := e.form.describe

/-- What targets are wanted for. -/
inductive Purpose where
  | assign
  /-- The targets of a loop, which read like the left side of a membership test. -/
  | loop
  | delete
deriving DecidableEq, Repr

mutual

/-- The first part of an expression that makes it no target. -/
def Expr.badTarget? (purpose : Purpose) : Expr → Option Expr
  | .mk _ (.list items) => badTargetIn? purpose items
  | .mk _ (.tuple items) => badTargetIn? purpose items
  | .mk span (.starred value) =>
    if purpose = .delete then some (.mk span (.starred value)) else value.badTarget? purpose
  | .mk span (.comparison first links) =>
    if purpose = .loop then
      match links with
      | .mk .within _ :: _ => first.badTarget? purpose
      | _ => none
    else some (.mk span (.comparison first links))
  | .mk _ (.name _) => none
  | .mk _ (.subscript _ _) => none
  | .mk _ (.attribute _ _) => none
  | .mk span form => some (.mk span form)

/-- The first part of some expressions that makes one no target. -/
def badTargetIn? (purpose : Purpose) : List Expr → Option Expr
  | [] => none
  | item :: rest =>
    match item.badTarget? purpose with
    | some bad => some bad
    | none => badTargetIn? purpose rest

end

end AdjointSynthesis.Code

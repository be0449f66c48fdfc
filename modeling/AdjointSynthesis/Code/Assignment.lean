import AdjointSynthesis.Code.Tree

/-!
# Assignments

The statements of a program at any depth, what each of them assigns to, and the variable at the
root of a chain of subscripts.
-/

namespace AdjointSynthesis.Code

/-! ## Roots -/

/-- The name below any number of subscripts. -/
def Expr.base? : Expr → Option String
  | .mk _ (.subscript value _) => value.base?
  | .mk _ (.name id) => some id
  | _ => none

/-- The name at the root of a chain of one or more subscripts. -/
def Expr.subscriptRoot? : Expr → Option String
  | .mk _ (.subscript value _) => value.base?
  | _ => none

/-! ## Targets -/

/-- The items of a tuple or list, or the one target. -/
def Expr.flatTargets : Expr → List Expr
  | .mk _ (.tuple items) => items
  | .mk _ (.list items) => items
  | target => [target]

/-- What a statement assigns to. -/
def Stmt.targets : Stmt → List Expr
  | .mk _ (.assign targets _) => targets.flatMap Expr.flatTargets
  | .mk _ (.augment target _ _) => [target]
  | .mk _ (.annotate target _ _ _) => [target]
  | _ => []

/-! ## Statements at any depth -/

mutual

/-- A statement and all statements inside it. -/
def Stmt.all : Stmt → List Stmt
  | .mk span (.function isAsync name parameters body decorators returns) =>
    .mk span (.function isAsync name parameters body decorators returns) :: allIn body
  | .mk span (.classDefinition name bases keywords body decorators) =>
    .mk span (.classDefinition name bases keywords body decorators) :: allIn body
  | .mk span (.forLoop isAsync target source body otherwise) =>
    .mk span (.forLoop isAsync target source body otherwise) :: (allIn body ++ allIn otherwise)
  | .mk span (.whileLoop condition body otherwise) =>
    .mk span (.whileLoop condition body otherwise) :: (allIn body ++ allIn otherwise)
  | .mk span (.branch condition body otherwise) =>
    .mk span (.branch condition body otherwise) :: (allIn body ++ allIn otherwise)
  | .mk span (.withBlock isAsync managers body) =>
    .mk span (.withBlock isAsync managers body) :: allIn body
  | .mk span (.matching subject cases) =>
    .mk span (.matching subject cases) :: allInCases cases
  | .mk span (.trying isGroup body handlers otherwise finally_) =>
    .mk span (.trying isGroup body handlers otherwise finally_) ::
      (allIn body ++ allInHandlers handlers ++ allIn otherwise ++ allIn finally_)
  | .mk span form => [.mk span form]

/-- Some statements and all statements inside them. -/
def allIn : List Stmt → List Stmt
  | [] => []
  | stmt :: rest => stmt.all ++ allIn rest

/-- All statements inside some handlers. -/
def allInHandlers : List Handler → List Stmt
  | [] => []
  | .mk _ _ _ body :: rest => allIn body ++ allInHandlers rest

/-- All statements inside some cases. -/
def allInCases : List MatchCase → List Stmt
  | [] => []
  | .mk _ _ body :: rest => allIn body ++ allInCases rest

end

end AdjointSynthesis.Code

import AdjointSynthesis.Code.Span

/-!
# Trees of programs

What a program says, as a tree: expressions, patterns and statements, each with the span of text
that it was read from.  An expression or statement is a span together with a form, so that the
forms alone say what is the same program up to places.
-/

namespace AdjointSynthesis.Code

/-- Operators on two numbers or arrays; each also makes an augmented assignment. -/
inductive BinaryOperator where
  | add | subtract | multiply | matrixMultiply | divide | remainder | power
  | shiftLeft | shiftRight | bitOr | bitXor | bitAnd | floorDivide
deriving DecidableEq, Repr

/-- Operators on one value. -/
inductive UnaryOperator where
  | invert | not | plus | minus
deriving DecidableEq, Repr

/-- The operators that stop at the first operand that decides. -/
inductive Junction where
  | and | or
deriving DecidableEq, Repr

/-- The relations of a comparison. -/
inductive Relation where
  | equal | notEqual | less | lessEqual | greater | greaterEqual | same | notSame | within | notWithin
deriving DecidableEq, Repr

/-- One element of a text constant: a code point, or a character given by its name. -/
inductive TextUnit where
  | code (point : Nat)
  | named (name : List Char)
deriving DecidableEq, Repr

/-- Constants.  A number is kept as it is written; a text remembers whether its first part carries
the letter u in front. -/
inductive Constant where
  | absent
  | truth (value : Bool)
  | ellipsis
  | number (written : String)
  | text (units : List TextUnit) (marked : Bool)
  | bytes (values : List Nat)
deriving DecidableEq, Repr

mutual

/-- An expression. -/
inductive Expr where
  | mk (span : Span) (form : Form)

/-- What an expression is. -/
inductive Form where
  | name (id : String)
  | constant (value : Constant)
  /-- A text with replacement fields. -/
  | template (parts : List Expr)
  /-- A replacement field of a text. -/
  | field (value : Expr) (conversion : Option Char) (format : Option Expr)
  | tuple (items : List Expr)
  | list (items : List Expr)
  | set (items : List Expr)
  | dict (items : List DictItem)
  | subscript (value index : Expr)
  | attribute (value : Expr) (name : String)
  | slice (lower upper step : Option Expr)
  | starred (value : Expr)
  | call (function : Expr) (positional : List Expr) (keywords : List KeywordArgument)
  | unary (operator : UnaryOperator) (operand : Expr)
  | binary (operator : BinaryOperator) (left right : Expr)
  | junction (kind : Junction) (operands : List Expr)
  | comparison (first : Expr) (links : List Link)
  | conditional (condition yes no : Expr)
  | lambda (parameters : Parameters) (body : Expr)
  | assignment (target value : Expr)
  | listComprehension (item : Expr) (clauses : List Clause)
  | setComprehension (item : Expr) (clauses : List Clause)
  | dictComprehension (key value : Expr) (clauses : List Clause)
  | generator (item : Expr) (clauses : List Clause)
  | await (value : Expr)
  | yield (value : Option Expr)
  | yieldFrom (value : Expr)

/-- An entry of a dictionary display. -/
inductive DictItem where
  | pair (key value : Expr)
  | spread (value : Expr)

/-- An argument passed by keyword; without a name it spreads a mapping. -/
inductive KeywordArgument where
  | mk (span : Span) (name : Option String) (value : Expr)

/-- A relation of a comparison chain with its right operand. -/
inductive Link where
  | mk (relation : Relation) (operand : Expr)

/-- A clause of a comprehension. -/
inductive Clause where
  | mk (isAsync : Bool) (target source : Expr) (conditions : List Expr)

/-- A parameter of a function. -/
inductive Parameter where
  | mk (span : Span) (name : String) (hint : Option Expr)

/-- The parameters of a function.  The defaults belong to the last positional ones. -/
inductive Parameters where
  | mk (positionalOnly positional : List Parameter) (variadic : Option Parameter)
      (keywordOnly : List Parameter) (keywordDefaults : List (Option Expr))
      (keywords : Option Parameter) (defaults : List Expr)

end

/-- A pattern of a match statement. -/
inductive Pattern where
  | value (span : Span) (value : Expr)
  | singleton (span : Span) (value : Constant)
  | sequence (span : Span) (items : List Pattern)
  | mapping (span : Span) (keys : List Expr) (items : List Pattern) (rest : Option String)
  | record (span : Span) (type : Expr) (positional : List Pattern) (names : List String)
      (named : List Pattern)
  | star (span : Span) (name : Option String)
  | capture (span : Span) (inner : Option Pattern) (name : Option String)
  | choice (span : Span) (options : List Pattern)

/-- A name that an import binds, with the name it is bound to if another. -/
structure ImportedName where
  name : String
  boundAs : Option String
deriving DecidableEq, Repr

/-- A manager of a with statement and what it is bound to. -/
structure Manager where
  value : Expr
  target : Option Expr

mutual

/-- A statement. -/
inductive Stmt where
  | mk (span : Span) (form : StmtForm)

/-- What a statement is. -/
inductive StmtForm where
  | function (isAsync : Bool) (name : String) (parameters : Parameters) (body : List Stmt)
      (decorators : List Expr) (returns : Option Expr)
  | classDefinition (name : String) (bases : List Expr) (keywords : List KeywordArgument)
      (body : List Stmt) (decorators : List Expr)
  | returning (value : Option Expr)
  | delete (targets : List Expr)
  | assign (targets : List Expr) (value : Expr)
  | augment (target : Expr) (operator : BinaryOperator) (value : Expr)
  | annotate (target hint : Expr) (value : Option Expr) (simple : Bool)
  | forLoop (isAsync : Bool) (target source : Expr) (body otherwise : List Stmt)
  | whileLoop (condition : Expr) (body otherwise : List Stmt)
  | branch (condition : Expr) (body otherwise : List Stmt)
  | withBlock (isAsync : Bool) (managers : List Manager) (body : List Stmt)
  | matching (subject : Expr) (cases : List MatchCase)
  | raising (exception cause : Option Expr)
  | trying (isGroup : Bool) (body : List Stmt) (handlers : List Handler)
      (otherwise finally_ : List Stmt)
  | assertion (condition : Expr) (message : Option Expr)
  | importing (names : List ImportedName)
  | importingFrom (module : Option String) (names : List ImportedName) (level : Nat)
  | declareGlobal (names : List String)
  | declareNonlocal (names : List String)
  | expression (value : Expr)
  | pass
  | breaking
  | continuing

/-- A handler of a try statement. -/
inductive Handler where
  | mk (span : Span) (type : Option Expr) (name : Option String) (body : List Stmt)

/-- A case of a match statement. -/
inductive MatchCase where
  | mk (pattern : Pattern) (guard : Option Expr) (body : List Stmt)

end

namespace Expr

/-- The span of an expression. -/
def span : Expr → Span
  | .mk span _ => span

/-- The form of an expression. -/
def form : Expr → Form
  | .mk _ form => form

/-- The line an expression starts on. -/
def line (e : Expr) : Nat := e.span.start.line

end Expr

/-- The span of a pattern. -/
def Pattern.span : Pattern → Span
  | .value span _ => span
  | .singleton span _ => span
  | .sequence span _ => span
  | .mapping span _ _ _ => span
  | .record span _ _ _ _ => span
  | .star span _ => span
  | .capture span _ _ => span
  | .choice span _ => span

namespace Stmt

/-- The span of a statement. -/
def span : Stmt → Span
  | .mk span _ => span

/-- The form of a statement. -/
def form : Stmt → StmtForm
  | .mk _ form => form

end Stmt

instance : Inhabited Expr := ⟨.mk default (.constant .absent)⟩

/-- No parameters. -/
def Parameters.none : Parameters := .mk [] [] .none [] [] .none []

end AdjointSynthesis.Code

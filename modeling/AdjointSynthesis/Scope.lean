import AdjointSynthesis.Bindings

/-!
# Scopes

The variables visible where a block starts, each with a coarse kind.  A scope is given by names, or
captured from the two namespaces of a program: globals come first, then the locals not seen before.
Only data is captured; modules, classes, functions, private names and bookkeeping are not.
-/

namespace AdjointSynthesis

/-- The kinds of visible variables. -/
inductive Kind where
  | array | immutableArray | integer | scalar | object
deriving DecidableEq, Repr

namespace Kind

/-- The kinds with their names. -/
def spellings : List (String × Kind) := [("array", .array), ("immutable_array", .immutableArray),
  ("integer", .integer), ("scalar", .scalar), ("object", .object)]

/-- The name of a kind. -/
def name : Kind → String
  | .array => "array"
  | .immutableArray => "immutable_array"
  | .integer => "integer"
  | .scalar => "scalar"
  | .object => "object"

/-- The kind of a name. -/
def ofName? (name : String) : Option Kind := spellings.lookup name

theorem ofName?_name (kind : Kind) : ofName? kind.name = some kind := by
  cases kind <;> decide +kernel

end Kind

/-- What is known of a value that a variable is bound to. -/
structure Value where
  isImmutableArray : Bool
  isArray : Bool
  isTruth : Bool
  isInteger : Bool
  isNumber : Bool
  isModule : Bool
  isClass : Bool
  /-- Whether the value belongs to the machinery that captures scopes. -/
  isBookkeeping : Bool
  isCallable : Bool
deriving DecidableEq, Repr

/-- The kind of a value.  An immutable array also counts as a number, so it is asked for first. -/
def Value.kind (value : Value) : Kind :=
  if value.isImmutableArray then .immutableArray
  else if value.isArray then .array
  else if value.isTruth then .object
  else if value.isInteger then .integer
  else if value.isNumber then .scalar
  else .object

/-- Whether a name is private. -/
def isPrivate (name : String) : Bool := name.toList.head? == some '_'

/-- Whether a name bound to a value is a variable of the program. -/
def isVariable (name : String) (value : Value) : Bool :=
  !isPrivate name && !(value.isModule || value.isClass) && !value.isBookkeeping &&
    !value.isCallable

/-- Visible variables with their kinds. -/
abbrev Scope : Type := Bindings Kind

namespace Scope

/-- The scope of some names, all of one kind. -/
def ofNames (names : List String) (kind : Kind) : Scope :=
  .ofList (names.map fun name => (name, kind))

/-- The scope with a name added if it is a variable and not yet in it. -/
def capturing (scope : Scope) (name : String) (value : Value) : Scope :=
  if !scope.contains name && isVariable name value then scope.put name value.kind else scope

/-- The variables of two namespaces. -/
def capture (locals globals : Bindings Value) : Scope :=
  (globals.entries ++ locals.entries).foldl (fun scope entry => scope.capturing entry.1 entry.2)
    .empty

/-- The names of some kinds, in the order of the scope. -/
def namesOfKinds (scope : Scope) (kinds : List Kind) : List String :=
  (scope.entries.filter fun entry => kinds.contains entry.2).map Prod.fst

end Scope

end AdjointSynthesis

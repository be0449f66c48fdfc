import AdjointSynthesis.Scope
import AdjointSynthesis.Text.Identifier
import AdjointSynthesis.Usage

/-!
# Blocks

A block is a run of statements with a name and the variables visible where it starts.  Its text
comes from a unit, which is a function that wraps the statements, or from the statements alone.
-/

namespace AdjointSynthesis

open Code

/-- A block of statements. -/
structure Block where
  text : List Char
  name : String
  scope : Scope
  /-- Whether the text stands in for one that could not be recovered. -/
  isDegraded : Bool

/-- Whether two lists hold the same names, in any order. -/
def sameNames (names others : List String) : Bool :=
  names.all others.contains && others.all names.contains

namespace Block

/-- The variables visible where a block starts. -/
def visible (block : Block) : List String := block.scope.names

/-- Whether two blocks see the same variables. -/
def sameShape (block other : Block) : Bool := sameNames block.visible other.visible

/-- Whether two blocks are the same up to the order of their scopes. -/
def same (block other : Block) : Bool :=
  block.text == other.text && block.name == other.name && block.scope.same other.scope &&
    block.isDegraded == other.isDegraded

/-- What a block uses. -/
def usage (block : Block) : Except Failure Usage := Usage.ofText block.text

end Block

/-! ## Cutting a definition open -/

/-- The text of a unit as a name and statements. -/
structure Definition where
  name : Option String
  body : List Char
deriving DecidableEq, Repr

/-- The lines of a body, cut out of the lines of its definition by the places of its first and last
statement.  A body that starts on the line of its definition starts at its column there. -/
def bodyLines (lines : List (List Char)) (definition first last : Span) :
    Except Failure (List (List Char)) :=
  let body := (lines.take last.stop.line).drop (first.start.line - 1)
  if first.start.line = definition.start.line then
    match body with
    | [] => .error .missingLine
    | line :: rest => .ok (line.drop first.start.column :: rest)
  else .ok body

/-- A text cut open: the name and the body of a single function, or the whole text. -/
def Definition.ofText (source : List Char) : Except Failure Definition := do
  let text := Text.dedent source
  let statements ← readProgram .unit text
  let lines := Text.splitLines text
  match statements with
  | [.mk span (.function _ name _ (first :: rest) _ _)] =>
    let body ← bodyLines lines span first.span (rest.getLast?.getD first).span
    return ⟨some name, Text.dedent (Text.endLines body)⟩
  | _ => return ⟨none, Text.endLines lines⟩

/-! ## Blocks from texts -/

/-- The name of a block: the one that is given, unless it is empty, or that of the definition. -/
def chosenName (given defined : Option String) : Option String :=
  match given with
  | some name => if name = "" then defined else some name
  | none => defined

/-- A block from the text of a unit or of bare statements. -/
def Block.ofText (source : List Char) (scope : Scope) (given : Option String) :
    Except Failure Block := do
  let definition ← Definition.ofText source
  match chosenName given definition.name with
  | none => throw .missingName
  | some name =>
    if Text.isIdentifier name.toList then return ⟨definition.body, name, scope, false⟩
    else throw (.badName name)

end AdjointSynthesis

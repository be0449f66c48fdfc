import AdjointSynthesis.Code.Assignment
import AdjointSynthesis.Code.Occurrence
import AdjointSynthesis.Code.Read
import AdjointSynthesis.Failure
import AdjointSynthesis.Text.Margin

/-!
# What a block uses

The names that a block refers to and those that it writes to.  A write is an assignment to a chain
of subscripts that is the first thing on its line; writes that stand further right do not count.

Columns are counted in bytes and blanks in characters, so a target counts as first only behind
blanks of one byte.
-/

namespace AdjointSynthesis

open Code

/-- What a block refers to and writes to, with the text and statements it was read from. -/
structure Usage where
  text : List Char
  statements : List Stmt
  referenced : List String
  mutated : List String

/-- A write to a variable and the place of its target. -/
structure Write where
  place : Place
  root : String
deriving DecidableEq, Repr

namespace Write

/-- Whether a write comes before another: by place, then by name. -/
def before (a b : Write) : Bool :=
  a.place.before b.place || (!b.place.before a.place && decide (a.root < b.root))

end Write

/-- The names without their later repetitions. -/
def firstOccurrences (names : List String) : List String :=
  names.foldl (fun found name => if found.contains name then found else found ++ [name]) []

/-- Whether a place is the first on its line that is not blank, if there is such a line. -/
def startsLine? (lines : List (List Char)) (place : Place) : Option Bool :=
  (lines[place.line - 1]?).map fun line => place.column == Text.leadingBlanks line

/-- The write to a target, if it is one. -/
def writeTo? (lines : List (List Char)) (target : Expr) : Except Failure (Option Write) :=
  match target.subscriptRoot? with
  | none => .ok none
  | some root =>
    match startsLine? lines target.span.start with
    | none => .error .missingLine
    | some true => .ok (some ⟨target.span.start, root⟩)
    | some false => .ok none

/-- The writes to some targets. -/
def writesTo (lines : List (List Char)) : List Expr → Except Failure (List Write)
  | [] => .ok []
  | target :: rest => do
    let write ← writeTo? lines target
    return write.toList ++ (← writesTo lines rest)

/-- The statements of a text, which may not hold the null character.  The rules are those of release
3.11.3 of the language.  A reader that runs out of stack or memory on a text nested very deep fails
there for reasons of its own, which are left out: every text is read to its end here. -/
def readProgram (part : Part) (text : List Char) : Except Failure (List Stmt) :=
  if text.contains '\x00' then .error .nullCharacter
  else (Code.read text).mapError (.broken part)

/-- What the statements of a text use. -/
def Usage.ofText (source : List Char) : Except Failure Usage := do
  let text := Text.dedent source
  let statements ← readProgram .block text
  let targets := (allIn statements).flatMap Stmt.targets
  let writes ← writesTo (Text.splitOn '\n' text) targets
  return {
    text
    statements
    referenced := firstOccurrences ((inOrder (namesInBody 1 statements)).map Occurrence.name)
    mutated := firstOccurrences ((sorted Write.before writes).map Write.root) }

namespace Usage

/-- Whether a name is referred to. -/
def references (usage : Usage) (name : String) : Bool := usage.referenced.contains name

/-- Whether a name is written to. -/
def mutates (usage : Usage) (name : String) : Bool := usage.mutated.contains name

end Usage

end AdjointSynthesis

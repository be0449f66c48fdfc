import AdjointSynthesis.Template.Fault
import AdjointSynthesis.Text.Digit

/-!
# Fields of templates

A template is text with fields in braces; a doubled brace stands for itself.  A field has a name, a
conversion and a layout.  The name begins with a key and goes on with attributes and indices.
-/

namespace AdjointSynthesis.Template

/-- A field of a template. -/
structure Field where
  name : List Char
  conversion : Option Char
  layout : List Char
  /-- Whether the layout has fields of its own. -/
  nested : Bool
deriving DecidableEq, Repr

/-- A piece of a template: text, or text with a field behind it. -/
structure Piece where
  text : List Char
  field : Option Field
  rest : List Char
deriving DecidableEq, Repr

/-! ## Cutting out fields -/

/-- How the name of a field ends. -/
inductive NameEnd where
  | brace | colon | conversion
deriving DecidableEq, Repr

/-- The name of a field, how it ends, and what stands behind that.  In square brackets anything
may stand. -/
def takeName (inBrackets : Bool) : List Char → Except Fault (List Char × NameEnd × List Char)
  | [] => .error .openField
  | c :: rest =>
    if inBrackets then
      (takeName (c ≠ ']') rest).map fun (name, behind) => (c :: name, behind)
    else if c = '\x7b' then .error .braceInName
    else if c = '\x7d' then .ok ([], .brace, rest)
    else if c = ':' then .ok ([], .colon, rest)
    else if c = '!' then .ok ([], .conversion, rest)
    else (takeName (c = '[') rest).map fun (name, behind) => (c :: name, behind)

/-- A layout up to the brace that ends its field, with some braces open. -/
def takeLayout (depth : Nat) : List Char → Except Fault (List Char × List Char)
  | [] => .error .openFormat
  | c :: rest =>
    if c = '\x7b' then (takeLayout (depth + 1) rest).map fun (layout, rest) => (c :: layout, rest)
    else if c = '\x7d' then
      match depth with
      | 0 => .ok ([], rest)
      | depth + 1 => (takeLayout depth rest).map fun (layout, rest) => (c :: layout, rest)
    else (takeLayout depth rest).map fun (layout, rest) => (c :: layout, rest)

/-- A field from its layout on. -/
def layoutField (name : List Char) (conversion : Option Char) (rest : List Char) :
    Except Fault (Field × List Char) := do
  let (layout, rest) ← takeLayout 0 rest
  return (⟨name, conversion, layout, layout.contains '\x7b'⟩, rest)

/-- A field from behind its opening brace on, and what stands behind the field. -/
def takeField (rest : List Char) : Except Fault (Field × List Char) := do
  match ← takeName false rest with
  | (name, .brace, rest) => return (⟨name, none, [], false⟩, rest)
  | (name, .colon, rest) => layoutField name none rest
  | (_, .conversion, []) => throw .conversionAtEnd
  | (name, .conversion, c :: rest) =>
    let conversion := if c = '\x00' then none else some c
    match rest with
    | [] => layoutField name conversion []
    | d :: rest =>
      if d = '\x7d' then return (⟨name, conversion, [], false⟩, rest)
      else if d = ':' then layoutField name conversion rest
      else throw .colonExpected

/-- The next piece of a template that is not at its end. -/
def nextPiece : List Char → Except Fault Piece
  | [] => .ok ⟨[], none, []⟩
  | c :: rest =>
    if c = '\x7b' ∨ c = '\x7d' then
      match rest with
      | [] => .error (.lone c)
      | d :: more =>
        if d = c then .ok ⟨[c], none, more⟩
        else if c = '\x7d' then .error (.lone c)
        else (takeField rest).map fun (field, rest) => ⟨[], some field, rest⟩
    else
      (nextPiece rest).map fun piece => { piece with text := c :: piece.text }

/-! ## Names of fields -/

/-- What a name begins with. -/
inductive Key where
  | name (word : List Char)
  | position (index : Nat)
deriving DecidableEq, Repr

/-- A step from a value to a part of it. -/
inductive Step where
  | attribute (name : List Char)
  | index (number : Nat)
  | part (name : List Char)
deriving DecidableEq, Repr

/-- The number that a word of digits stands for. -/
def numberOf? (word : List Char) : Except Fault (Option Nat) :=
  match Text.leadingNumber 0 0 word with
  | none => .error .numberTooGreat
  | some (value, count, rest) =>
    .ok (if count = 0 || !rest.isEmpty then none else some value)

/-- Whether a character begins a step. -/
def beginsStep (c : Char) : Bool := c == '.' || c == '['

/-- The key of a name.  An empty one stands for the first position. -/
def keyOf (name : List Char) : Except Fault Key := do
  let word := name.takeWhile fun c => !beginsStep c
  if word.isEmpty then return .position 0
  match ← numberOf? word with
  | some index => return .position index
  | none => return .name word

/-- The first step of what follows the key, and what stands behind it. -/
def nextStep : List Char → Except Fault (Step × List Char)
  | [] => .error .behindBracket
  | c :: rest =>
    if c = '.' then
      let name := rest.takeWhile fun c => !beginsStep c
      if name.isEmpty then .error .emptyPart
      else .ok (.attribute name, rest.dropWhile fun c => !beginsStep c)
    else if c = '[' then do
      let inside := rest.takeWhile (· ≠ ']')
      match rest.dropWhile (· ≠ ']') with
      | [] => throw .openBracket
      | _ :: behind =>
        let number ← numberOf? inside
        if inside.isEmpty then throw .emptyPart
        match number with
        | some index => return (.index index, behind)
        | none => return (.part inside, behind)
    else .error .behindBracket

end AdjointSynthesis.Template

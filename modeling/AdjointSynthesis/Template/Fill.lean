import AdjointSynthesis.Template.Layout
import AdjointSynthesis.Template.Runtime

/-!
# Filling in templates

The text of a template with values for its keys.  The values of the keys are texts, and their
attributes are those of a runtime.  Fields are taken one after the other, so that of two faults the
one further to the left is reported.
-/

namespace AdjointSynthesis.Template

/-- The values of the keys. -/
abbrev Values : Type := List (List Char × List Char)

/-- A text without characters outside ASCII: they are written by their codes. -/
def asciiOnly (text : List Char) : List Char :=
  text.flatMap fun c =>
    if c.toNat < 0x80 then [c]
    else if c.toNat < 0x100 then '\\' :: 'x' :: Text.hex false 2 c.toNat
    else if c.toNat < 0x10000 then '\\' :: 'u' :: Text.hex false 4 c.toNat
    else '\\' :: 'U' :: Text.hex false 8 c.toNat

variable [Runtime]

/-- A value as a text. -/
def Value.written : Value Runtime.Object → Except Fault (List Char)
  | .text characters => .ok characters
  | .object other => Runtime.written other

/-- A value as it is shown in messages. -/
def Value.quoted : Value Runtime.Object → Except Fault (List Char)
  | .text characters => .ok (Text.quoted characters)
  | .object other => Runtime.quoted other

/-- A value set into a field as a layout says. -/
def Value.layOut (layout : List Char) : Value Runtime.Object → Except Fault (List Char)
  | .text characters => Template.layOut layout characters
  | .object other => Runtime.layOut layout other

/-- A value as a conversion shows it. -/
def convert (conversion : Option Char) (value : Value Runtime.Object) :
    Except Fault (Value Runtime.Object) :=
  match conversion with
  | none => .ok value
  | some c =>
    if c = 's' then value.written.map .text
    else if c = 'r' then value.quoted.map .text
    else if c = 'a' then value.quoted.map fun shown => .text (asciiOnly shown)
    else .error (.conversion c)

/-- The value of a key. -/
def lookUp (values : Values) : Key → Except Fault (List Char)
  | .position index => .error (.absent (.position index))
  | .name word =>
    match values.lookup word with
    | some value => .ok value
    | none => .error (.absent (.key word))

/-- What a step leads to from a value.  A text has its characters by number, nothing in brackets by
name, and the attributes that the runtime gives it. -/
def Value.stepInto (value : Value Runtime.Object) (step : Step) :
    Except Fault (Value Runtime.Object) :=
  match value, step with
  | .object other, step => Runtime.stepInto other step
  | .text characters, .attribute name => Runtime.attributeOf characters name
  | .text _, .part _ => .error (.absent .part)
  | .text characters, .index number =>
    match characters[number]? with
    | some c => .ok (.text [c])
    | none => .error (.absent .character)

/-- What some steps lead to from a value. -/
def follow : Nat → Value Runtime.Object → List Char → Except Fault (Value Runtime.Object)
  | 0, value, _ => .ok value
  | fuel + 1, value, steps =>
    if steps.isEmpty then .ok value
    else do
      let (step, rest) ← nextStep steps
      follow fuel (← value.stepInto step) rest

/-- The value that the name of a field stands for. -/
def valueOf (values : Values) (name : List Char) : Except Fault (Value Runtime.Object) := do
  let value ← lookUp values (← keyOf name)
  let steps := name.dropWhile fun c => !beginsStep c
  follow (steps.length + 1) (.text value) steps

/-- The text of a field. -/
def fillField (values : Values) (fillLayout : List Char → Except Fault (List Char))
    (field : Field) : Except Fault (List Char) := do
  let value ← convert field.conversion (← valueOf values field.name)
  let layout ← if field.nested then fillLayout field.layout else pure field.layout
  value.layOut layout

/-- The text of some pieces. -/
def fillPieces (values : Values) (fillLayout : List Char → Except Fault (List Char)) :
    Nat → List Char → Except Fault (List Char)
  | 0, _ => .ok []
  | fuel + 1, template =>
    if template.isEmpty then .ok []
    else do
      let piece ← nextPiece template
      let text ←
        match piece.field with
        | some field => fillField values fillLayout field
        | none => pure []
      return piece.text ++ text ++ (← fillPieces values fillLayout fuel piece.rest)

/-- The text of a template whose layouts may have fields as deep as a count allows. -/
def fillUpTo (values : Values) : Nat → List Char → Except Fault (List Char)
  | 0, _ => .error .tooDeep
  | depth + 1, template =>
    fillPieces values (fillUpTo values depth) (template.length + 1) template

/-- The text of a template. -/
def fill (values : Values) (template : List Char) : Except Fault (List Char) :=
  fillUpTo values 2 template

end AdjointSynthesis.Template

import AdjointSynthesis.Template.Field

/-!
# What texts have besides characters

The keys of a template stand for texts, but a field may lead on to an attribute of a text.  What
attributes there are, what can be done with them and how they are shown is up to the runtime that
fills in the template, and not to this library.  So a runtime is a parameter of everything that
fills in templates, taken from the context.

One runtime answers the same question always alike.  What it shows of an object that has no text of
its own, like the place where the object is stored, is part of the answer.
-/

namespace AdjointSynthesis.Template

/-- What the name of a field may stand for: a text, or an object that is none. -/
inductive Value (Object : Type) where
  | text (characters : List Char)
  | object (object : Object)
deriving DecidableEq, Repr

/-- A runtime, as far as it decides on the fields of templates. -/
class Runtime where
  Object : Type
  /-- The attribute of a text that has some name. -/
  attributeOf : List Char → List Char → Except Fault (Value Object)
  /-- What a step leads to from an object. -/
  stepInto : Object → Step → Except Fault (Value Object)
  /-- An object as a text. -/
  written : Object → Except Fault (List Char)
  /-- An object as it is shown in messages. -/
  quoted : Object → Except Fault (List Char)
  /-- An object set into a field as a layout says. -/
  layOut : List Char → Object → Except Fault (List Char)

/-- A runtime whose texts have no attributes.  It does for templates that ask for none. -/
@[reducible] def Runtime.bare : Runtime where
  Object := Empty
  attributeOf _ name := .error (.absent (.attribute name))
  stepInto object := nomatch object
  written object := nomatch object
  quoted object := nomatch object
  layOut _ object := nomatch object

end AdjointSynthesis.Template

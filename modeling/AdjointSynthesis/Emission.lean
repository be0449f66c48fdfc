import AdjointSynthesis.Roles
import AdjointSynthesis.Settings.Basic
import AdjointSynthesis.Template.Fill

/-!
# Emission

The three definitions that are written for a block.

* The in-place form runs the statements on its arguments and returns nothing.
* The value-returning form runs them as well and returns the mutated variables.
* The adjoint rule runs the in-place form forwards and returns, beside the mutated variables, a
  function that takes their cotangents to the gradients of all arguments.

A definition is a list of lines; each line has a depth and the statements of the block keep their
own layout.
-/

namespace AdjointSynthesis

/-! ## Lines -/

/-- Names in brackets as a tuple. -/
def tupleText (items : List String) : String :=
  match items with
  | [item] => "(" ++ item ++ ",)"
  | _ => "(" ++ ", ".intercalate items ++ ")"

/-- A name with arguments behind it. -/
def signature (name : String) (arguments : List String) : String :=
  name ++ "(" ++ ", ".intercalate arguments ++ ")"

/-- The beginning of a line at a depth. -/
def indentation (settings : Settings) (depth : Nat) : List Char :=
  (List.replicate depth settings.indent.toList).flatten

/-- A line at a depth; an empty one is not indented. -/
def lineAt (settings : Settings) (depth : Nat) (text : String) : List Char :=
  if text = "" then [] else indentation settings depth ++ text.toList

/-- The lines of a text, put at a depth. -/
def linesAt (settings : Settings) (depth : Nat) (text : List Char) : List (List Char) :=
  Text.splitLines (Text.indent (indentation settings depth) text)

/-- The text that some lines make up. -/
def ofLines (lines : List (List Char)) : List Char := Text.joinWith ['\n'] lines ++ ['\n']

/-! ## Names -/

/-- The names that the definitions of a block introduce. -/
structure Naming where
  plain : String
  inplace : String
  backward : String
  cotangent : String
  gradientStart : String
deriving DecidableEq, Repr

/-- The names for a block. -/
def Naming.of (block : Block) (settings : Settings) : Naming where
  plain := block.name
  inplace := block.name ++ settings.inplaceSuffix
  backward := settings.backwardStart ++ block.name
  cotangent := settings.cotangentName
  gradientStart := settings.gradientStart

/-- The name of the gradient of a variable. -/
def Naming.gradient (naming : Naming) (name : String) : String := naming.gradientStart ++ name

/-- The names that stand beside the variables of a block in its adjoint rule. -/
def generatedNames (block : Block) (roles : Roles) (settings : Settings) : List String :=
  let naming := Naming.of block settings
  [naming.inplace, naming.backward, naming.cotangent] ++ roles.inputs.map naming.gradient

/-! ## The two forms of the block -/

/-- A function with the statements of a block and a return behind them. -/
def functionForm (block : Block) (settings : Settings) (name : String) (arguments : List String)
    (returned : String) : List Char :=
  ofLines ([lineAt settings 0 ("def " ++ signature name arguments ++ ":")] ++
    linesAt settings 1 block.text ++ [lineAt settings 1 ("return " ++ returned)])

/-- The in-place form. -/
def inplaceForm (block : Block) (roles : Roles) (settings : Settings) : List Char :=
  functionForm block settings (Naming.of block settings).inplace roles.inputs "None"

/-- The value-returning form. -/
def returningForm (block : Block) (roles : Roles) (settings : Settings) : List Char :=
  functionForm block settings block.name roles.inputs (tupleText roles.mutated)

/-! ## The adjoint rule -/

/-- The gradient of a variable that must be an argument. -/
def gradientOf (naming : Naming) (roles : Roles) (name : String) : Except Failure String :=
  if roles.inputs.contains name then .ok (naming.gradient name) else .error (.unknownName name)

variable [Template.Runtime]

/-- A template with a gradient and a variable filled in. -/
def fillTemplate (template : String) (values : List (String × String)) : Except Failure String :=
  match Template.fill (values.map fun entry => (entry.1.toList, entry.2.toList)) template.toList with
  | .ok text => .ok (String.ofList text)
  | .error fault => .error (.template fault)

/-- The line that makes a cotangent dense. -/
def densifyLine (naming : Naming) (settings : Settings) (name : String) :
    Except Failure String := do
  let gradient := naming.gradient name
  let text ← fillTemplate settings.densifyTemplate [("grad", gradient)]
  return gradient ++ " = " ++ text

/-- The line that puts zeros in place of a missing cotangent. -/
def noGradientLine (naming : Naming) (settings : Settings) (name : String) :
    Except Failure String := do
  let gradient := naming.gradient name
  let text ← fillTemplate settings.noGradientTemplate [("grad", gradient), ("primal", name)]
  return gradient ++ " = " ++ text

/-- An argument of the engine: a variable with what is done about its gradient. -/
def engineArgument (naming : Naming) (settings : Settings) (roles : Roles) (name : String) :
    Except Failure String := do
  match ← roles.role name with
  | .mutated => return settings.shadowWrapper ++ "(" ++ name ++ ", " ++ naming.gradient name ++ "),"
  | .constant => return settings.inactiveWrapper ++ "(" ++ name ++ "),"
  | .active => return settings.activeWrapper ++ "(" ++ name ++ "),"

/-- The line that the call of the engine begins with. -/
def engineHead (settings : Settings) (gradients : List String) : String :=
  let call := settings.secondaryEntry ++ "("
  if gradients.isEmpty then call else tupleText gradients ++ " = " ++ call

/-- What the rule returns for a variable. -/
def returnedSlot (naming : Naming) (settings : Settings) (roles : Roles) (name : String) : String :=
  if roles.constant.contains name then settings.zeroLiteral else naming.gradient name

/-- The adjoint rule. -/
def adjointRule (block : Block) (roles : Roles) (settings : Settings) :
    Except Failure (List Char) := do
  let naming := Naming.of block settings
  let at_ (depth : Nat) (text : String) : List Char := lineAt settings depth text
  let cotangents ← roles.mutated.mapM (gradientOf naming roles)
  let dense ← roles.mutated.mapM (densifyLine naming settings)
  let zeroed ← roles.mutated.mapM (noGradientLine naming settings)
  let computed ← roles.active.mapM (gradientOf naming roles)
  let arguments ← roles.inputs.mapM (engineArgument naming settings roles)
  return ofLines (
    [at_ 0 ("@" ++ settings.registerDecorator),
      at_ 0 ("def " ++ signature naming.plain roles.inputs ++ ":"),
      at_ 1 (signature naming.inplace roles.inputs), [],
      at_ 1 ("def " ++ naming.backward ++ "(" ++ naming.cotangent ++ "):"),
      at_ 2 (tupleText cotangents ++ " = " ++ naming.cotangent)] ++
    dense.map (at_ 2) ++ zeroed.map (at_ 2) ++
    [at_ 2 (engineHead settings computed), at_ 3 (naming.inplace ++ ",")] ++
    (if settings.returnWrapper = "" then [] else [at_ 3 (settings.returnWrapper ++ ",")]) ++
    arguments.map (at_ 3) ++
    [at_ 2 ")",
      at_ 2 ("return " ++ tupleText (roles.inputs.map (returnedSlot naming settings roles))), [],
      at_ 1 ("return " ++ tupleText roles.mutated ++ ", " ++ naming.backward)])

/-! ## Synthesis -/

/-- The definitions written for a block. -/
structure Artifacts where
  name : String
  inplace : List Char
  returning : List Char
  adjoint : List Char
  roles : Roles
deriving DecidableEq

/-- Writes the definitions for a block. -/
def synthesize (block : Block) (constants : List String) (settings : Settings) :
    Logged Artifacts := do
  let roles ← Roles.ofBlock block constants
  let clashes := roles.inputs.filter (generatedNames block roles settings).contains
  if !clashes.isEmpty then Logged.fail (.nameCollision block.name clashes)
  if block.isDegraded then
    Logged.record .warning .emit
      (block.name ++ " was extracted from fallback text; check the output by hand")
  let adjoint ← adjointRule block roles settings
  return {
    name := block.name
    inplace := inplaceForm block roles settings
    returning := returningForm block roles settings
    adjoint
    roles }

end AdjointSynthesis

import AdjointSynthesis.Text.Blank
import AdjointSynthesis.Text.Case
import AdjointSynthesis.Text.Identifier
import AdjointSynthesis.Text.Quoted

/-!
# Settings

How generated names are built and which dialect the definitions are written in.  Every setting is a
text with a default; some texts are refused.  Only the return activity may be missing.

* `Settings.ofSources` resolves each setting from the first source that gives it, and yields either
  settings that all checks accept or one problem for each setting that is refused.
-/

namespace AdjointSynthesis

/-- The settings, in the order in which they are declared. -/
inductive Setting where
  | inplaceSuffix | gradientStart | backwardStart | cotangentName | indent
  | registerDecorator | secondaryEntry | shadowWrapper | activeWrapper | inactiveWrapper
  | returnActivity | densifyTemplate | noGradientTemplate | zeroLiteral | logLevel
deriving DecidableEq, Repr

namespace Setting

/-- All settings. -/
def all : List Setting := [.inplaceSuffix, .gradientStart, .backwardStart, .cotangentName, .indent,
  .registerDecorator, .secondaryEntry, .shadowWrapper, .activeWrapper, .inactiveWrapper,
  .returnActivity, .densifyTemplate, .noGradientTemplate, .zeroLiteral, .logLevel]

/-- The name of a setting. -/
def name : Setting → String
  | inplaceSuffix => "inplace_suffix"
  | gradientStart => "gradient_prefix"
  | backwardStart => "backward_prefix"
  | cotangentName => "cotangent_name"
  | indent => "indent"
  | registerDecorator => "register_decorator"
  | secondaryEntry => "secondary_entry"
  | shadowWrapper => "shadow_annotation"
  | activeWrapper => "active_annotation"
  | inactiveWrapper => "inactive_annotation"
  | returnActivity => "return_activity"
  | densifyTemplate => "densify_template"
  | noGradientTemplate => "no_gradient_template"
  | zeroLiteral => "zero_literal"
  | logLevel => "log_level"

/-- The value of a setting that no source gives. -/
def default? : Setting → Option String
  | inplaceSuffix => some "_"
  | gradientStart => some "dz_"
  | backwardStart => some "back_"
  | cotangentName => some "cotangents"
  | indent => some "    "
  | registerDecorator => some "adjoint"
  | secondaryEntry => some "autodiff"
  | shadowWrapper => some "Duplicated"
  | activeWrapper => some "Active"
  | inactiveWrapper => some "Const"
  | returnActivity => none
  | densifyTemplate =>
    some "np.array(\x7bgrad\x7d) if isinstance(\x7bgrad\x7d, Fill) else \x7bgrad\x7d"
  | noGradientTemplate =>
    some "np.zeros_like(\x7bprimal\x7d) if \x7bgrad\x7d is None else \x7bgrad\x7d"
  | zeroLiteral => some "0.0"
  | logLevel => some "INFO"

end Setting

/-! ## Checks -/

/-- Why the value of a setting is refused. -/
inductive Problem where
  | notText
  | noIdentifier (value : String)
  | noSuffix (value : String)
  | noIndent
  | unusedGradient
  | unusedGradientOrPrimal
  | unknownLevel (value : String)
deriving DecidableEq, Repr

/-- The wording of a problem. -/
def Problem.message : Problem → String
  | notText => "Input should be a valid string"
  | noIdentifier value => Text.quote value ++ " is not a valid identifier"
  | noSuffix value => Text.quote value ++ " cannot be appended to a function name"
  | noIndent => "indent must be non-empty whitespace"
  | unusedGradient => "densify_template must reference \x7bgrad\x7d"
  | unusedGradientOrPrimal =>
    "no_gradient_template must reference \x7bgrad\x7d and \x7bprimal\x7d"
  | unknownLevel value => "unknown log level " ++ Text.quote value

/-- The known levels of records with their weights. -/
def levels : List (String × Nat) := [("CRITICAL", 50), ("FATAL", 50), ("ERROR", 40), ("WARN", 30),
  ("WARNING", 30), ("INFO", 20), ("DEBUG", 10), ("NOTSET", 0)]

/-- Whether a word occurs in a text. -/
def occursIn (word : List Char) : List Char → Bool
  | [] => word.isEmpty
  | c :: rest => word.isPrefixOf (c :: rest) || occursIn word rest

/-- Whether a template has a field for a key. -/
def mentions (template key : String) : Bool :=
  occursIn (("\x7b" ++ key ++ "\x7d").toList) template.toList

/-- The identifier, or why it is none. -/
def checkIdentifier (value : String) : Except Problem String :=
  if Text.isIdentifier value.toList then .ok value else .error (.noIdentifier value)

/-- The value that a setting takes, or why a text is refused. -/
def Setting.check (setting : Setting) (value : String) : Except Problem String :=
  match setting with
  | .gradientStart => checkIdentifier value
  | .backwardStart => checkIdentifier value
  | .cotangentName => checkIdentifier value
  | .inplaceSuffix =>
    if value ≠ "" ∧ Text.isIdentifier ('f' :: value.toList) then .ok value
    else .error (.noSuffix value)
  | .indent =>
    if value ≠ "" ∧ value.toList.all Text.isBlank then .ok value else .error .noIndent
  | .densifyTemplate =>
    if mentions value "grad" then .ok value else .error .unusedGradient
  | .noGradientTemplate =>
    if mentions value "grad" ∧ mentions value "primal" then .ok value
    else .error .unusedGradientOrPrimal
  | .logLevel =>
    let level := Text.upperCase value
    if (levels.lookup level).isSome then .ok level else .error (.unknownLevel value)
  | _ => .ok value

/-! ## Settings from sources -/

/-- The settings of a synthesis. -/
structure Settings where
  inplaceSuffix : String
  gradientStart : String
  backwardStart : String
  cotangentName : String
  indent : String
  registerDecorator : String
  secondaryEntry : String
  shadowWrapper : String
  activeWrapper : String
  inactiveWrapper : String
  returnActivity : Option String
  densifyTemplate : String
  noGradientTemplate : String
  zeroLiteral : String
  logLevel : String
deriving DecidableEq, Repr

/-- What a source gives for a setting. -/
inductive Given where
  | text (value : String)
  | nothing
  /-- Something that is no text. -/
  | other
deriving DecidableEq, Repr

/-- A source of values for settings, by their names in lower case. -/
abbrev Source : Type := List (String × Given)

/-- A setting whose value is refused. -/
structure Refusal where
  setting : Setting
  given : Given
  problem : Problem
deriving DecidableEq, Repr

/-- What the first source that knows a setting gives for it. -/
def resolve? (sources : List Source) (setting : Setting) : Option Given :=
  sources.findSome? fun source => source.lookup setting.name

/-- The value of a setting. -/
def Setting.value (setting : Setting) (sources : List Source) :
    Except Refusal (Option String) :=
  match resolve? sources setting with
  | none => .ok setting.default?
  | some (.text value) =>
    match setting.check value with
    | .ok value => .ok (some value)
    | .error problem => .error ⟨setting, .text value, problem⟩
  | some .nothing =>
    if setting = .returnActivity then .ok none else .error ⟨setting, .nothing, .notText⟩
  | some .other => .error ⟨setting, .other, .notText⟩

namespace Settings

/-- The settings with given values. -/
def ofValues (value : Setting → Option String) : Settings :=
  let text (setting : Setting) : String := (value setting).getD ""
  { inplaceSuffix := text .inplaceSuffix
    gradientStart := text .gradientStart
    backwardStart := text .backwardStart
    cotangentName := text .cotangentName
    indent := text .indent
    registerDecorator := text .registerDecorator
    secondaryEntry := text .secondaryEntry
    shadowWrapper := text .shadowWrapper
    activeWrapper := text .activeWrapper
    inactiveWrapper := text .inactiveWrapper
    returnActivity := value .returnActivity
    densifyTemplate := text .densifyTemplate
    noGradientTemplate := text .noGradientTemplate
    zeroLiteral := text .zeroLiteral
    logLevel := text .logLevel }

/-- The value of one setting. -/
def get (settings : Settings) : Setting → Option String
  | .inplaceSuffix => some settings.inplaceSuffix
  | .gradientStart => some settings.gradientStart
  | .backwardStart => some settings.backwardStart
  | .cotangentName => some settings.cotangentName
  | .indent => some settings.indent
  | .registerDecorator => some settings.registerDecorator
  | .secondaryEntry => some settings.secondaryEntry
  | .shadowWrapper => some settings.shadowWrapper
  | .activeWrapper => some settings.activeWrapper
  | .inactiveWrapper => some settings.inactiveWrapper
  | .returnActivity => settings.returnActivity
  | .densifyTemplate => some settings.densifyTemplate
  | .noGradientTemplate => some settings.noGradientTemplate
  | .zeroLiteral => some settings.zeroLiteral
  | .logLevel => some settings.logLevel

/-- The settings that nobody changed. -/
def default : Settings := ofValues Setting.default?

/-- The settings that some sources give, the first of them before all others. -/
def ofSources (sources : List Source) : Except (List Refusal) Settings :=
  let refusals := Setting.all.filterMap fun setting =>
    match setting.value sources with
    | .ok _ => none
    | .error refusal => some refusal
  if refusals.isEmpty then
    .ok (ofValues fun setting =>
      match setting.value sources with
      | .ok value => value
      | .error _ => none)
  else .error refusals

/-- What is said of the return value: the inactive wrapper unless something else is set. -/
def returnWrapper (settings : Settings) : String :=
  settings.returnActivity.getD settings.inactiveWrapper

theorem ofValues_get (settings : Settings) : ofValues settings.get = settings := rfl

end Settings

end AdjointSynthesis

import AdjointSynthesis.Text.Quoted

/-!
# Faults of templates

Why a template cannot be filled in.  Either it is not well formed, or it refers to something that
is not there.
-/

namespace AdjointSynthesis.Template

/-- What a template refers to that is not there. -/
inductive Absence where
  | key (name : List Char)
  | position (index : Nat)
  | attribute (name : List Char)
  /-- A text has no parts by name. -/
  | part
  /-- A text has no character at an index. -/
  | character
deriving DecidableEq, Repr

/-- Why a template cannot be filled in. -/
inductive Fault where
  -- fields
  | lone (brace : Char)
  | braceInName
  | conversionAtEnd
  | colonExpected
  | openFormat
  | openField
  | tooDeep
  | conversion (c : Char)
  | numberTooGreat
  | openBracket
  | behindBracket
  | emptyPart
  -- formats
  | bothSeparators
  | separator (sign type : Char)
  | missingPrecision
  | format (written : List Char)
  | type (c : Char)
  | space
  | sign
  | zero
  | alternate
  | alignment
  -- values
  | absent (absence : Absence)
  /-- What a runtime raises over an object, with its class. -/
  | raised (className message : String)
deriving DecidableEq, Repr

/-- The wording of what is not there. -/
def Absence.message : Absence → String
  | .key name => String.ofList (Text.quoted name)
  | .position index =>
    "Replacement index " ++ toString index ++ " out of range for positional args tuple"
  | .attribute name => "'str' object has no attribute '" ++ String.ofList name ++ "'"
  | .part => "string indices must be integers, not 'str'"
  | .character => "string index out of range"

/-- A character as it is shown in a message, by its code unless it is printable ASCII. -/
def shown (limit : Nat) (c : Char) : String :=
  if 32 < c.toNat && Nat.blt c.toNat limit then String.singleton c
  else "\\x" ++ String.ofList (Text.hex false 1 c.toNat)

/-- The wording of a fault. -/
def Fault.message : Fault → String
  | .lone brace => "Single '" ++ String.singleton brace ++ "' encountered in format string"
  | .braceInName => "unexpected '\x7b' in field name"
  | .conversionAtEnd => "end of string while looking for conversion specifier"
  | .colonExpected => "expected ':' after conversion specifier"
  | .openFormat => "unmatched '\x7b' in format spec"
  | .openField => "expected '\x7d' before end of string"
  | .tooDeep => "Max string recursion exceeded"
  | .conversion c => "Unknown conversion specifier " ++ shown 127 c
  | .numberTooGreat => "Too many decimal digits in format string"
  | .openBracket => "Missing ']' in format string"
  | .behindBracket => "Only '.' or '[' may follow ']' in format field specifier"
  | .emptyPart => "Empty attribute in format string"
  | .bothSeparators => "Cannot specify both ',' and '_'."
  | .separator written code =>
    "Cannot specify '" ++ String.singleton written ++ "' with '" ++ shown 128 code ++ "'."
  | .missingPrecision => "Format specifier missing precision"
  | .format written =>
    "Invalid format specifier '" ++ String.ofList written ++ "' for object of type 'str'"
  | .type c => "Unknown format code '" ++ shown 128 c ++ "' for object of type 'str'"
  | .space => "Space not allowed in string format specifier"
  | .sign => "Sign not allowed in string format specifier"
  | .zero => "Negative zero coercion (z) not allowed in string format specifier"
  | .alternate => "Alternate form (#) not allowed in string format specifier"
  | .alignment => "'=' alignment not allowed in string format specifier"
  | .absent absence => absence.message
  | .raised _ message => message

end AdjointSynthesis.Template

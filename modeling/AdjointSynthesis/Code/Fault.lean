import AdjointSynthesis.Text.Quoted

/-!
# Faults of syntax

Why a text is not a program.  A fault is a cause with the line it is reported at.  The causes come
from four places: the characters (a text that does not end, brackets that do not match), the layout
of lines (indentation), the grammar, and the texts with replacement fields, which hold programs of
their own.  Every cause has one wording, given by `Cause.message`.
-/

namespace AdjointSynthesis.Code

/-- The ways to write a number. -/
inductive NumberKind where
  | decimal | hexadecimal | octal | binary | imaginary
deriving DecidableEq, Repr

/-- The word for a way to write a number. -/
def NumberKind.describe : NumberKind → String
  | .decimal => "decimal"
  | .hexadecimal => "hexadecimal"
  | .octal => "octal"
  | .binary => "binary"
  | .imaginary => "imaginary"

/-- What is wrong with a replacement field of a text. -/
inductive FieldFault where
  | nestedTooDeep
  | backslash
  | comment
  | openText
  | tooManyBrackets
  | unmatched (bracket : Char)
  | mismatched (closing opening : Char)
  | unclosed
  | conversion
  | strayBrace
  | emptyExpression
  | emptyBefore (sign : Char)
  | textAfterEnd
deriving DecidableEq, Repr

/-- The things a block can belong to. -/
inductive BlockOwner where
  | statement (word : String)
  | classDefinition
  | functionDefinition
deriving DecidableEq, Repr

/-- Why a text is not a program. -/
inductive Cause where
  -- characters
  | openText (triple : Bool) (detected : Nat)
  | character (c : Char)
  | number (kind : NumberKind)
  | digit (c : Char) (kind : NumberKind)
  | leadingZeros
  | tooManyBrackets
  | unmatched (closing : Char)
  | mismatched (closing opening : Char) (openedOn : Option Nat)
  -- layout
  | dedent
  | tabs
  | tooManyIndents
  | continuation
  | endOfText
  | neverClosed (opening : Char)
  -- statements
  | grammar
  | unexpectedIndent
  | unexpectedUnindent
  | expected (what : String)
  | missingBlock (owner : BlockOwner) (line : Nat)
  | missingIndent
  | missingHandler
  | mixedHandlers
  | manyTypes
  | missingTypes
  | importComma
  | legacyCall (function : String)
  -- targets
  | assignHere (what : String)
  | assign (what : String)
  | assignYield
  | delete (what : String)
  | augment (what : String)
  | annotateMany (what : String)
  | annotate
  | assignmentExpression (what : String)
  -- expressions
  | missingComma
  | missingElse
  | equalsSign
  | equalsInArgument
  | positionalAfterKeyword
  | positionalAfterSpread
  | unpackingAfterSpread
  | bareGenerator
  | starredComprehension
  | spreadComprehension
  | comprehensionTarget
  | starredGroup
  | spreadGroup
  | starredValue
  | missingValue
  | missingColon
  -- parameters
  | plainAfterDefault
  | groupedParameters (isLambda : Bool)
  | repeatedSlash
  | slashAfterStar
  | commaAfterSlash
  | missingDefault
  | bareStar
  | starDefault
  | repeatedStar
  | spreadDefault
  | afterSpread
  -- patterns
  | underscoreTarget
  | patternTarget
  | positionalPattern
  | realPart
  | imaginaryPart
  -- constants
  | bytesCharacter
  | mixedBytes
  | undecodable (report : String)
  | tooManyDigits (count : Nat)
  -- replacement fields
  | field (fault : FieldFault)
  | inField (cause : Cause)
deriving DecidableEq, Repr

/-- A fault: its cause and the line it is reported at. -/
structure Fault where
  cause : Cause
  line : Nat
deriving DecidableEq, Repr

/-- A character in single quotes. -/
def inQuotes (c : Char) : String := "'" ++ String.singleton c ++ "'"

/-- The code of a character as it is written in a message. -/
def codePoint (c : Char) : String := "U+" ++ String.ofList (Text.hex true 4 c.toNat)

/-- The wording of what is wrong with a replacement field. -/
def FieldFault.message : FieldFault → String
  | .nestedTooDeep => "f-string: expressions nested too deeply"
  | .backslash => "f-string expression part cannot include a backslash"
  | .comment => "f-string expression part cannot include '#'"
  | .openText => "f-string: unterminated string"
  | .tooManyBrackets => "f-string: too many nested parenthesis"
  | .unmatched bracket => "f-string: unmatched " ++ inQuotes bracket
  | .mismatched closing opening =>
    "f-string: closing parenthesis " ++ inQuotes closing ++
      " does not match opening parenthesis " ++ inQuotes opening
  | .unclosed => "f-string: expecting '\x7d'"
  | .conversion => "f-string: invalid conversion character: expected 's', 'r', or 'a'"
  | .strayBrace => "f-string: single '\x7d' is not allowed"
  | .emptyExpression => "f-string: empty expression not allowed"
  | .emptyBefore sign => "f-string: expression required before " ++ inQuotes sign
  | .textAfterEnd => "f-string: unexpected end of string"

/-- The wording of the owner of a block. -/
def BlockOwner.message : BlockOwner → String
  | .statement word => "'" ++ word ++ "' statement"
  | .classDefinition => "class definition"
  | .functionDefinition => "function definition"

/-- The wording of a cause. -/
def Cause.message : Cause → String
  | .openText triple detected =>
    "unterminated " ++ (if triple then "triple-quoted " else "") ++
      "string literal (detected at line " ++ toString detected ++ ")"
  | .character c =>
    if Text.isPrintable c then "invalid character " ++ inQuotes c ++ " (" ++ codePoint c ++ ")"
    else "invalid non-printable character " ++ codePoint c
  | .number kind => "invalid " ++ kind.describe ++ " literal"
  | .digit c kind => "invalid digit " ++ inQuotes c ++ " in " ++ kind.describe ++ " literal"
  | .leadingZeros =>
    "leading zeros in decimal integer literals are not permitted; " ++
      "use an 0o prefix for octal integers"
  | .tooManyBrackets => "too many nested parentheses"
  | .unmatched closing => "unmatched " ++ inQuotes closing
  | .mismatched closing opening openedOn =>
    "closing parenthesis " ++ inQuotes closing ++ " does not match opening parenthesis " ++
      inQuotes opening ++
      (match openedOn with
        | none => ""
        | some line => " on line " ++ toString line)
  | .dedent => "unindent does not match any outer indentation level"
  | .tabs => "inconsistent use of tabs and spaces in indentation"
  | .tooManyIndents => "too many levels of indentation"
  | .continuation => "unexpected character after line continuation character"
  | .endOfText => "unexpected EOF while parsing"
  | .neverClosed opening => inQuotes opening ++ " was never closed"
  | .grammar => "invalid syntax"
  | .unexpectedIndent => "unexpected indent"
  | .unexpectedUnindent => "unexpected unindent"
  | .expected what => "expected '" ++ what ++ "'"
  | .missingBlock owner line =>
    "expected an indented block after " ++ owner.message ++ " on line " ++ toString line
  | .missingIndent => "expected an indented block"
  | .missingHandler => "expected 'except' or 'finally' block"
  | .mixedHandlers => "cannot have both 'except' and 'except*' on the same 'try'"
  | .manyTypes => "multiple exception types must be parenthesized"
  | .missingTypes => "expected one or more exception types"
  | .importComma => "trailing comma not allowed without surrounding parentheses"
  | .legacyCall function =>
    "Missing parentheses in call to '" ++ function ++ "'. Did you mean " ++ function ++ "(...)?"
  | .assignHere what =>
    "cannot assign to " ++ what ++ " here. Maybe you meant '==' instead of '='?"
  | .assign what => "cannot assign to " ++ what
  | .assignYield => "assignment to yield expression not possible"
  | .delete what => "cannot delete " ++ what
  | .augment what => "'" ++ what ++ "' is an illegal expression for augmented assignment"
  | .annotateMany what => "only single target (not " ++ what ++ ") can be annotated"
  | .annotate => "illegal target for annotation"
  | .assignmentExpression what => "cannot use assignment expressions with " ++ what
  | .missingComma => "invalid syntax. Perhaps you forgot a comma?"
  | .missingElse => "expected 'else' after 'if' expression"
  | .equalsSign => "invalid syntax. Maybe you meant '==' or ':=' instead of '='?"
  | .equalsInArgument => "expression cannot contain assignment, perhaps you meant \"==\"?"
  | .positionalAfterKeyword => "positional argument follows keyword argument"
  | .positionalAfterSpread => "positional argument follows keyword argument unpacking"
  | .unpackingAfterSpread =>
    "iterable argument unpacking follows keyword argument unpacking"
  | .bareGenerator => "Generator expression must be parenthesized"
  | .starredComprehension => "iterable unpacking cannot be used in comprehension"
  | .spreadComprehension => "dict unpacking cannot be used in dict comprehension"
  | .comprehensionTarget => "did you forget parentheses around the comprehension target?"
  | .starredGroup => "cannot use starred expression here"
  | .spreadGroup => "cannot use double starred expression here"
  | .starredValue => "cannot use a starred expression in a dictionary value"
  | .missingValue => "expression expected after dictionary key and ':'"
  | .missingColon => "':' expected after dictionary key"
  | .plainAfterDefault => "non-default argument follows default argument"
  | .groupedParameters isLambda =>
    (if isLambda then "Lambda expression" else "Function") ++ " parameters cannot be parenthesized"
  | .repeatedSlash => "/ may appear only once"
  | .slashAfterStar => "/ must be ahead of *"
  | .commaAfterSlash => "expected comma between / and *"
  | .missingDefault => "expected default value expression"
  | .bareStar => "named arguments must follow bare *"
  | .starDefault => "var-positional argument cannot have default value"
  | .repeatedStar => "* argument may appear only once"
  | .spreadDefault => "var-keyword argument cannot have default value"
  | .afterSpread => "arguments cannot follow var-keyword argument"
  | .underscoreTarget => "cannot use '_' as a target"
  | .patternTarget => "invalid pattern target"
  | .positionalPattern => "positional patterns follow keyword patterns"
  | .realPart => "real number required in complex literal"
  | .imaginaryPart => "imaginary number required in complex literal"
  | .bytesCharacter => "bytes can only contain ASCII literal characters"
  | .mixedBytes => "cannot mix bytes and nonbytes literals"
  | .undecodable report => report
  | .tooManyDigits count =>
    "Exceeds the limit (4300 digits) for integer string conversion: value has " ++
      toString count ++ " digits; use sys.set_int_max_str_digits() to increase the limit" ++
      " - Consider hexadecimal for huge integer literals to avoid decimal conversion limits."
  | .field fault => fault.message
  | .inField cause => "f-string: " ++ cause.message

/-- The wording of a fault. -/
def Fault.message (fault : Fault) : String := fault.cause.message

end AdjointSynthesis.Code

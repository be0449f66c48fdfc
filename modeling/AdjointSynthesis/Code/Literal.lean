import AdjointSynthesis.Code.Fault
import AdjointSynthesis.Code.Number
import AdjointSynthesis.Code.Scan

/-!
# Text constants

From the characters of a text token to the text that it stands for: its letters and quotes are taken
off and its escapes are resolved.  In a text with replacement fields, the literal stretches and the
reach of each field are found here; what a field holds is read by the grammar.
-/

namespace AdjointSynthesis.Code

/-! ## Letters and quotes -/

/-- A text token, taken apart. -/
structure TextToken where
  token : Token
  raw : Bool
  bytes : Bool
  hasFields : Bool
  /-- How many characters stand before the body. -/
  offset : Nat
  body : List Char

/-- Takes a text token apart. -/
def TextToken.ofToken (token : Token) : TextToken :=
  let letters := token.written.takeWhile fun c => !isQuote c
  let quoted := token.written.drop letters.length
  let quotes :=
    match quoted with
    | a :: b :: c :: _ => if a = b ∧ b = c ∧ 6 ≤ quoted.length then 3 else 1
    | _ => 1
  let has (c : Char) : Bool := letters.any fun d => d.toLower == c
  ⟨token, has 'r', has 'b', has 'f', letters.length + quotes,
    (quoted.drop quotes).take (quoted.length - 2 * quotes)⟩

/-! ## Escapes -/

/-- The value of a digit in base sixteen. -/
def hexValue (c : Char) : Nat :=
  if c.isDigit then c.toNat - 48 else if 'a' ≤ c then c.toNat - 87 else c.toNat - 55

/-- The digits in base sixteen that a text begins with, at most a count of them. -/
def hexStart (count : Nat) (text : List Char) : List Char := (text.take count).takeWhile isHexDigit

/-- The number with some digits. -/
def ofDigits (base : Nat) (digits : List Char) : Nat :=
  digits.foldl (fun value c => value * base + hexValue c) 0

/-- The characters that a single letter or quote behind a backslash stands for. -/
def simpleEscape? (c : Char) : Option (List Nat) :=
  if c = '\n' then some []
  else if c = '\\' ∨ c = '\'' ∨ c = '"' then some [c.toNat]
  else if c = 'a' then some [7]
  else if c = 'b' then some [8]
  else if c = 't' then some [9]
  else if c = 'n' then some [10]
  else if c = 'v' then some [11]
  else if c = 'f' then some [12]
  else if c = 'r' then some [13]
  else none

/-- The width of a character where the report of a bad escape counts it. -/
def reportWidth (c : Char) : Nat := if c.toNat < 0x80 then 1 else 10

/-- The report of a bad escape in a text. -/
def badEscape (start stop : Nat) (reason : String) : Cause :=
  .undecodable ("(unicode error) 'unicodeescape' codec can't decode bytes in position " ++
    toString start ++ "-" ++ toString (stop - 1) ++ ": " ++ reason)

/-- The escape with digits in base sixteen behind a letter, if the letter starts one: how many
digits it takes and how a message calls it. -/
def hexEscape? (c : Char) : Option (Nat × String) :=
  if c = 'x' then some (2, "truncated \\xXX escape")
  else if c = 'u' then some (4, "truncated \\uXXXX escape")
  else if c = 'U' then some (8, "truncated \\UXXXXXXXX escape")
  else none

/-- The units that a text with escapes stands for.  The position counts as reports do. -/
def decodeText : Nat → Nat → List Char → Except Cause (List TextUnit)
  | 0, _, _ => .ok []
  | _ + 1, _, [] => .ok []
  | fuel + 1, position, '\\' :: c :: rest =>
    match simpleEscape? c with
    | some codes => do return codes.map .code ++ (← decodeText fuel (position + 2) rest)
    | none =>
      match hexEscape? c with
      | some (count, reason) =>
        let digits := hexStart count rest
        let stop := position + 2 + digits.length
        if digits.length < count then .error (badEscape position stop reason)
        else if 0x110000 ≤ ofDigits 16 digits then
          .error (badEscape position stop "illegal Unicode character")
        else do
          return .code (ofDigits 16 digits) :: (← decodeText fuel stop (rest.drop count))
      | none =>
        if c = 'N' then
          let malformed := "malformed \\N character escape"
          match rest with
          | '\x7b' :: named =>
            let name := named.takeWhile (· != '\x7d')
            let width := (name.map reportWidth).foldl (· + ·) 0
            let behind := named.drop name.length
            if behind.isEmpty then .error (badEscape position (position + 3 + width) malformed)
            else if name.isEmpty then .error (badEscape position (position + 3) malformed)
            else do
              return .named name :: (← decodeText fuel (position + 4 + width) (behind.drop 1))
          | _ => .error (badEscape position (position + 2) malformed)
        else if isOctalDigit c then
          let digits := c :: (rest.take 2).takeWhile isOctalDigit
          do
            return .code (ofDigits 8 digits) ::
              (← decodeText fuel (position + 1 + digits.length) (rest.drop (digits.length - 1)))
        else do
          let width := if c.toNat < 0x80 then 2 else 16
          return .code 92 :: .code c.toNat :: (← decodeText fuel (position + width) rest)
  | fuel + 1, position, c :: rest => do
    return .code c.toNat :: (← decodeText fuel (position + reportWidth c) rest)

/-- The bytes that a text with escapes stands for. -/
def decodeBytes : Nat → Nat → List Char → Except Cause (List Nat)
  | 0, _, _ => .ok []
  | _ + 1, _, [] => .ok []
  | fuel + 1, position, '\\' :: c :: rest =>
    match simpleEscape? c with
    | some codes => do return codes ++ (← decodeBytes fuel (position + 2) rest)
    | none =>
      if c = 'x' then
        let digits := hexStart 2 rest
        if digits.length < 2 then
          .error (.undecodable ("(value error) invalid \\x escape at position " ++ toString position))
        else do return ofDigits 16 digits :: (← decodeBytes fuel (position + 4) (rest.drop 2))
      else if isOctalDigit c then
        let digits := c :: (rest.take 2).takeWhile isOctalDigit
        do
          return ofDigits 8 digits % 256 ::
            (← decodeBytes fuel (position + 1 + digits.length) (rest.drop (digits.length - 1)))
      else do return 92 :: c.toNat :: (← decodeBytes fuel (position + 2) rest)
  | fuel + 1, position, c :: rest => do
    return c.toNat :: (← decodeBytes fuel (position + 1) rest)

/-- The units of a stretch of text, which keeps its backslashes if it is raw. -/
def textUnits (raw : Bool) (stretch : List Char) : Except Cause (List TextUnit) :=
  if raw || !stretch.contains '\\' then .ok (stretch.map fun c => .code c.toNat)
  else decodeText (stretch.length + 1) 0 stretch

/-- The bytes of a body. -/
def byteValues (raw : Bool) (body : List Char) : Except Cause (List Nat) :=
  if body.any fun c => Nat.ble 128 c.toNat then .error .bytesCharacter
  else if raw || !body.contains '\\' then .ok (body.map Char.toNat)
  else decodeBytes (body.length + 1) 0 body

/-! ## Literal stretches between fields -/

/-- A literal stretch of a text with fields: its characters, what stands behind it, and whether a
doubled brace ended it, so that another stretch follows. -/
structure Stretch where
  text : List Char
  rest : List Char
  doubled : Bool

/-- One more character in front of a stretch. -/
def Stretch.cons (c : Char) (stretch : Stretch) : Stretch :=
  { stretch with text := c :: stretch.text }

/-- The skipped characters up to and including a closing brace, and those behind it. -/
def throughBrace : List Char → List Char × List Char
  | [] => ([], [])
  | c :: rest =>
    if c = '\x7d' then ([c], rest)
    else
      let (skipped, behind) := throughBrace rest
      (c :: skipped, behind)

/-- The literal stretch that a text begins with.  Outside a format a doubled brace stands for one
brace and a single closing brace is a fault. -/
def stretch (raw inFormat : Bool) : Nat → List Char → Except FieldFault Stretch
  | 0, rest => .ok ⟨[], rest, false⟩
  | _ + 1, [] => .ok ⟨[], [], false⟩
  | fuel + 1, c :: rest =>
    if c = '\\' ∧ !raw ∧ !rest.isEmpty then
      match rest with
      | [] => .ok ⟨[c], [], false⟩
      | d :: more =>
        if d = 'N' then
          match more with
          | '\x7b' :: named =>
            let (skipped, behind) := throughBrace named
            (stretch raw inFormat fuel behind).map fun found =>
              { found with text := c :: d :: '\x7b' :: skipped ++ found.text }
          | e :: others => (stretch raw inFormat fuel others).map (.cons c ∘ .cons d ∘ .cons e)
          | [] => .ok ⟨[c, d], [], false⟩
        else if d = '\x7b' ∨ d = '\x7d' then
          (brace d more).map (.cons c)
        else (stretch raw inFormat fuel more).map (.cons c ∘ .cons d)
    else if c = '\x7b' ∨ c = '\x7d' then brace c rest
    else (stretch raw inFormat fuel rest).map (.cons c)
where
  /-- A stretch that ends at a brace. -/
  brace (c : Char) (rest : List Char) : Except FieldFault Stretch :=
    if inFormat then .ok ⟨[], c :: rest, false⟩
    else if rest.head? = some c then .ok ⟨[c], rest.drop 1, true⟩
    else if c = '\x7d' then .error .strayBrace
    else .ok ⟨[], c :: rest, false⟩

/-! ## The reach of a field -/

/-- Whether two signs make one relation, which does not end the expression of a field. -/
def isRelationSign (c d : Char) : Bool :=
  d == '=' && (c == '!' || c == '=' || c == '<' || c == '>')

/-- Whether a text begins with two of a quote. -/
def beginsWithTwo (quote : Char) : List Char → Bool
  | a :: b :: _ => a == quote && b == quote
  | _ => false

/-- What stands behind the expression of a field, from the sign on that ends it.  The quote is that
of the text the place lies in, with whether three of it end the text; the brackets are those open;
so many characters are passed over unseen. -/
def behindExpression (quote : Option (Char × Bool)) (open_ : List Char) (unseen : Nat) :
    List Char → Except FieldFault (List Char)
  | [] =>
    if quote.isSome then .error .openText
    else
      match open_ with
      | bracket :: _ => .error (.unmatched bracket)
      | [] => .error .unclosed
  | c :: rest =>
    if 0 < unseen then behindExpression quote open_ (unseen - 1) rest
    else if c = '\\' then .error .backslash
    else
      match quote with
      | some (mark, triple) =>
        if c ≠ mark then behindExpression quote open_ 0 rest
        else if triple then
          if beginsWithTwo mark rest then behindExpression none open_ 2 rest
          else behindExpression quote open_ 0 rest
        else behindExpression none open_ 0 rest
      | none =>
        if isQuote c then
          if beginsWithTwo c rest then behindExpression (some (c, true)) open_ 2 rest
          else behindExpression (some (c, false)) open_ 0 rest
        else if c = '[' ∨ c = '\x7b' ∨ c = '(' then
          if maxBrackets ≤ open_.length then .error .tooManyBrackets
          else behindExpression none (c :: open_) 0 rest
        else if c = '#' then .error .comment
        else if open_.isEmpty ∧
            (c = '!' ∨ c = ':' ∨ c = '\x7d' ∨ c = '=' ∨ c = '>' ∨ c = '<') then
          if (rest.head?.map (isRelationSign c)).getD false then behindExpression none open_ 1 rest
          else if c = '>' ∨ c = '<' then behindExpression none open_ 0 rest
          else .ok (c :: rest)
        else if c = ']' ∨ c = '\x7d' ∨ c = ')' then
          match open_ with
          | [] => .error (.unmatched c)
          | innermost :: outer =>
            if closingOf innermost = c then behindExpression none outer 0 rest
            else .error (.mismatched c innermost)
        else behindExpression none open_ 0 rest

/-- Whether the expression of a field holds nothing but space. -/
def isEmptyExpression (expression : List Char) : Bool :=
  expression.all fun c => c == ' ' || c == '\t' || c == '\n' || c == '\x0c'

/-- The space that may follow the sign of a field that shows its expression. -/
def isSignSpace (c : Char) : Bool :=
  c == ' ' || c == '\t' || c == '\n' || c == '\x0b' || c == '\x0c' || c == '\r'

/-! ## Where the expression of a field stands -/

/-- Whether only space stands between the brace and the next line. -/
def startsOnNextLine : List Char → Bool
  | [] => true
  | c :: rest =>
    if c = '\x7d' ∨ c = '\n' then true
    else if c = ' ' ∨ c = '\t' ∨ c = '\x0c' then startsOnNextLine rest
    else false

/-- The line of a field's brace and the column that its expression is counted from, of which the
brace takes one place.  Before stands what the token holds before the brace. -/
def fieldPlace (token : Token) (before behindBrace : List Char) : Place :=
  let lines := before.count '\n'
  let line := token.span.start.line + lines
  if startsOnNextLine behindBrace then
    ⟨line, if lines = 0 then token.span.start.column else 0⟩
  else
    let width := bytesOf (before.reverse.takeWhile (· != '\n'))
    ⟨line, if lines = 0 then token.span.start.column + width else width⟩

/-- The tokens of a field's expression, in brackets and moved to its place. -/
def fieldTokens (place : Place) (expression : List Char) : TokenSequence :=
  let sequence := TokenSequence.ofLines place.line ('(' :: expression ++ [')'])
  let move (token : Token) : Token :=
    if token.span.stop.line = place.line then
      let shift (p : Place) : Place := ⟨p.line, p.column + place.column⟩
      { token with span := ⟨shift token.span.start, shift token.span.stop⟩ }
    else token
  { sequence with tokens := sequence.tokens.map move }

end AdjointSynthesis.Code

import AdjointSynthesis.Code.Fault

/-!
# Numbers

How far a number reaches.  Digits may have single underscores between them; a decimal number may
have a fraction, an exponent and the letter of an imaginary one.  A letter or digit may not follow
a number directly, except as the first of a word that can follow a number.

Each function takes the characters from some place of the number on and yields those behind it.
-/

namespace AdjointSynthesis.Code

/-- Whether a character may stand inside a word, as far as the first look tells. -/
def isWordPart (c : Char) : Bool := c.isAlphanum || c == '_' || Nat.ble 128 c.toNat

/-- Whether a character may begin a word, as far as the first look tells. -/
def isWordStart (c : Char) : Bool := c.isAlpha || c == '_' || Nat.ble 128 c.toNat

/-- Whether a text begins with a whole word. -/
def beginsWithWord : List Char → List Char → Bool
  | [], [] => true
  | [], c :: _ => !isWordPart c
  | _ :: _, [] => false
  | w :: word, c :: rest => w == c && beginsWithWord word rest

/-- Whether a word that can follow a number directly stands here. -/
def continuesAfterNumber (rest : List Char) : Bool :=
  beginsWithWord "and".toList rest || beginsWithWord "else".toList rest ||
    beginsWithWord "for".toList rest || beginsWithWord "or".toList rest ||
    beginsWithWord "not".toList rest ||
    match rest with
    | 'i' :: c :: _ => c == 'f' || c == 'n' || c == 's'
    | _ => false

/-- Ends a number here unless a word part follows it. -/
def endNumber (kind : NumberKind) (rest : List Char) : Except Cause (List Char) :=
  match rest with
  | [] => .ok rest
  | c :: _ =>
    if isWordPart c && !continuesAfterNumber rest then .error (.number kind) else .ok rest

/-- Skips decimal digits with single underscores between them. -/
def decimalTail : List Char → Except Cause (List Char)
  | [] => .ok []
  | '_' :: d :: rest => if d.isDigit then decimalTail rest else .error (.number .decimal)
  | c :: rest =>
    if c.isDigit then decimalTail rest
    else if c = '_' then .error (.number .decimal)
    else .ok (c :: rest)

/-- Skips the digits of a number in another base behind its first one. -/
def radixTail (isDigit : Char → Bool) (bad : Char → Cause) : List Char → Except Cause (List Char)
  | [] => .ok []
  | '_' :: d :: rest => if isDigit d then radixTail isDigit bad rest else .error (bad d)
  | c :: rest =>
    if isDigit c then radixTail isDigit bad rest
    else if c = '_' then .error (bad c)
    else .ok (c :: rest)

/-- Skips the digits of a number in another base, of which there is at least one. -/
def radixDigits (isDigit : Char → Bool) (bad : Char → Cause) (rest : List Char) :
    Except Cause (List Char) :=
  let digits :=
    match rest with
    | '_' :: more => more
    | _ => rest
  match digits with
  | [] => .error (bad '\n')
  | d :: more => if isDigit d then radixTail isDigit bad more else .error (bad d)

/-- Whether a character is a digit in base sixteen. -/
def isHexDigit (c : Char) : Bool :=
  c.isDigit || decide ('a' ≤ c ∧ c ≤ 'f') || decide ('A' ≤ c ∧ c ≤ 'F')

/-- Whether a character is a digit in base eight. -/
def isOctalDigit (c : Char) : Bool := decide ('0' ≤ c ∧ c ≤ '7')

/-- Whether a character is a digit in base two. -/
def isBinaryDigit (c : Char) : Bool := c == '0' || c == '1'

/-- What is wrong with a character among the digits of another base. -/
def badDigit (kind : NumberKind) (c : Char) : Cause :=
  if c.isDigit then .digit c kind else .number kind

/-- Ends a number of base eight or two, behind which no other digit may stand. -/
def endRadix (kind : NumberKind) (rest : List Char) : Except Cause (List Char) :=
  match rest with
  | c :: _ => if c.isDigit then .error (.digit c kind) else endNumber kind rest
  | [] => .ok rest

/-- Ends a decimal number, which the letter of an imaginary one may follow. -/
def endDecimal (rest : List Char) : Except Cause (List Char) :=
  match rest with
  | c :: more =>
    if c = 'j' ∨ c = 'J' then endNumber .imaginary more else endNumber .decimal rest
  | [] => .ok rest

/-- Reads on where an exponent may stand. -/
def exponentTail (rest : List Char) : Except Cause (List Char) :=
  match rest with
  | e :: more =>
    if e = 'e' ∨ e = 'E' then
      match more with
      | [] => endNumber .decimal rest
      | s :: after =>
        if s = '+' ∨ s = '-' then
          match after with
          | d :: digits =>
            if d.isDigit then (decimalTail digits).bind endDecimal else .error (.number .decimal)
          | [] => .error (.number .decimal)
        else if s.isDigit then (decimalTail after).bind endDecimal
        else endNumber .decimal rest
    else endDecimal rest
  | [] => .ok rest

/-- Reads on behind the point of a fraction. -/
def fractionTail (rest : List Char) : Except Cause (List Char) :=
  match rest with
  | d :: more => if d.isDigit then (decimalTail more).bind exponentTail else exponentTail rest
  | [] => .ok rest

/-- Skips zeros with single underscores between them. -/
def zerosTail : List Char → Except Cause (List Char)
  | [] => .ok []
  | '_' :: d :: rest =>
    if d = '0' then zerosTail rest
    else if d.isDigit then .ok (d :: rest)
    else .error (.number .decimal)
  | c :: rest =>
    if c = '0' then zerosTail rest
    else if c = '_' then .error (.number .decimal)
    else .ok (c :: rest)

/-- Whether a point, an exponent or the letter of an imaginary number stands here. -/
def isDecimalSign (rest : List Char) : Bool :=
  match rest with
  | c :: _ => c == '.' || c == 'e' || c == 'E' || c == 'j' || c == 'J'
  | [] => false

/-- Reads on behind the whole part of a decimal number. -/
def wholeTail (rest : List Char) : Except Cause (List Char) :=
  match rest with
  | '.' :: more => fractionTail more
  | _ => exponentTail rest

/-- Reads on behind a first zero. -/
def zeroTail (rest : List Char) : Except Cause (List Char) := do
  let behind ← zerosTail rest
  match behind with
  | [] => .ok behind
  | c :: more =>
    if c.isDigit then
      let behind ← decimalTail more
      if isDecimalSign behind then wholeTail behind else .error .leadingZeros
    else if isDecimalSign behind then wholeTail behind
    else endNumber .decimal behind

/-- What stands behind the number that a text begins with. -/
def numberTail : List Char → Except Cause (List Char)
  | '0' :: c :: rest =>
    if c = 'x' ∨ c = 'X' then
      (radixDigits isHexDigit (fun _ => .number .hexadecimal) rest).bind (endNumber .hexadecimal)
    else if c = 'o' ∨ c = 'O' then
      (radixDigits isOctalDigit (badDigit .octal) rest).bind (endRadix .octal)
    else if c = 'b' ∨ c = 'B' then
      (radixDigits isBinaryDigit (badDigit .binary) rest).bind (endRadix .binary)
    else zeroTail (c :: rest)
  | '.' :: rest => fractionTail rest
  | _ :: rest => (decimalTail rest).bind wholeTail
  | [] => .ok []

end AdjointSynthesis.Code

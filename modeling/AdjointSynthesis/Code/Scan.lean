import AdjointSynthesis.Code.Token
import AdjointSynthesis.Code.Number
import AdjointSynthesis.Text.Identifier
import AdjointSynthesis.Text.Lines

/-!
# Cutting a text into tokens

The text is first given uniform line ends.  Then each line is read: its indentation is compared
with that of the lines around it, and its words follow.  Inside brackets and behind a backslash at
the end of a line the next line goes on with this one.

* `lexeme` finds the kind of the token at a place and what stands behind it;
* `TokenSequence.ofText` cuts the whole text.
-/

namespace AdjointSynthesis.Code

/-! ## Places to read on from -/

/-- The characters still to read and the place of the first of them. -/
structure Cursor where
  rest : List Char
  line : Nat
  column : Nat

namespace Cursor

/-- The place of a cursor. -/
def place (cursor : Cursor) : Place := ⟨cursor.line, cursor.column⟩

/-- The cursor behind its first character. -/
def next (cursor : Cursor) : Cursor :=
  match cursor.rest with
  | [] => cursor
  | c :: rest =>
    if c = '\n' then ⟨rest, cursor.line + 1, 0⟩
    else ⟨rest, cursor.line, cursor.column + byteWidth c⟩

/-- The cursor behind a count of characters. -/
def skip : Nat → Cursor → Cursor
  | 0, cursor => cursor
  | count + 1, cursor => skip count cursor.next

/-- The line that the last character before the end of the text stands on, or the own line. -/
def readLine (cursor : Cursor) : Nat :=
  if cursor.rest.isEmpty then cursor.line - 1 else cursor.line

end Cursor

/-! ## Lexemes -/

/-- Whether a character opens and closes texts. -/
def isQuote (c : Char) : Bool := c == '\'' || c == '"'

/-- How many letters stand before the quote of a text that starts here. -/
def textStart? : List Char → Option Nat
  | [] => none
  | a :: rest =>
    if isQuote a then some 0
    else
      match rest with
      | [] => none
      | b :: rest =>
        let first := a.toLower
        if isQuote b then
          if first = 'b' ∨ first = 'r' ∨ first = 'u' ∨ first = 'f' then some 1 else none
        else
          match rest with
          | [] => none
          | q :: _ =>
            let second := b.toLower
            if isQuote q ∧ ((first = 'r' ∧ (second = 'b' ∨ second = 'f')) ∨
                (second = 'r' ∧ (first = 'b' ∨ first = 'f'))) then some 2 else none

/-- What stands behind a text on one line, or the place where it breaks off. -/
def lineTextEnd (quote : Char) : List Char → Except (List Char) (List Char)
  | [] => .error []
  | '\\' :: _ :: rest => lineTextEnd quote rest
  | c :: rest =>
    if c = quote then .ok rest
    else if c = '\n' then .error (c :: rest)
    else lineTextEnd quote rest

/-- What stands behind a text that three quotes end, or the place where it breaks off. -/
def blockTextEnd (quote : Char) : List Char → Except (List Char) (List Char)
  | [] => .error []
  | '\\' :: _ :: rest => blockTextEnd quote rest
  | a :: rest =>
    match rest with
    | b :: c :: more =>
      if a = quote ∧ b = quote ∧ c = quote then .ok more else blockTextEnd quote rest
    | _ => blockTextEnd quote rest

/-- The line on which a text that starts on some line breaks off. -/
def brokenOn (line : Nat) (text behind : List Char) : Nat :=
  let count := (text.take (text.length - behind.length)).count '\n'
  if behind.isEmpty then line + count - 1 else line + count

/-- What stands behind the text whose quote comes first. -/
def textEnd (line : Nat) : List Char → Except Cause (List Char)
  | a :: b :: c :: rest =>
    if b = a ∧ c = a then
      match blockTextEnd a rest with
      | .ok behind => .ok behind
      | .error behind => .error (.openText true (brokenOn line rest behind))
    else if b = a then .ok (c :: rest)
    else
      match lineTextEnd a (b :: c :: rest) with
      | .ok behind => .ok behind
      | .error behind => .error (.openText false (brokenOn line (b :: c :: rest) behind))
  | [a, b] => if b = a then .ok [] else .error (.openText false line)
  | rest => .error (.openText false (if rest.isEmpty then line - 1 else line))

/-- The augmented assignment with an operator. -/
def augmentedMark (operator : BinaryOperator) (rest : List Char) : Token.Kind × List Char :=
  (.mark (.augmented operator), rest)

/-- The operator or punctuation that a text begins with, and what stands behind it. -/
def markAt? : List Char → Option (Token.Kind × List Char)
  | '(' :: rest => some (.mark .openParen, rest)
  | ')' :: rest => some (.mark .closeParen, rest)
  | '[' :: rest => some (.mark .openBracket, rest)
  | ']' :: rest => some (.mark .closeBracket, rest)
  | '\x7b' :: rest => some (.mark .openBrace, rest)
  | '\x7d' :: rest => some (.mark .closeBrace, rest)
  | ',' :: rest => some (.mark .comma, rest)
  | ';' :: rest => some (.mark .semicolon, rest)
  | '~' :: rest => some (.mark .tilde, rest)
  | ':' :: rest =>
    match rest with
    | '=' :: more => some (.mark .walrus, more)
    | _ => some (.mark .colon, rest)
  | '.' :: rest =>
    match rest with
    | '.' :: '.' :: more => some (.mark .ellipsis, more)
    | _ => some (.mark .dot, rest)
  | '=' :: rest =>
    match rest with
    | '=' :: more => some (.mark .equal, more)
    | _ => some (.mark .assign, rest)
  | '!' :: '=' :: rest => some (.mark .notEqual, rest)
  | '+' :: rest =>
    match rest with
    | '=' :: more => some (augmentedMark .add more)
    | _ => some (.mark .plus, rest)
  | '-' :: rest =>
    match rest with
    | '=' :: more => some (augmentedMark .subtract more)
    | '>' :: more => some (.mark .arrow, more)
    | _ => some (.mark .minus, rest)
  | '*' :: rest =>
    match rest with
    | '*' :: '=' :: more => some (augmentedMark .power more)
    | '*' :: more => some (.mark .doubleStar, more)
    | '=' :: more => some (augmentedMark .multiply more)
    | _ => some (.mark .star, rest)
  | '/' :: rest =>
    match rest with
    | '/' :: '=' :: more => some (augmentedMark .floorDivide more)
    | '/' :: more => some (.mark .doubleSlash, more)
    | '=' :: more => some (augmentedMark .divide more)
    | _ => some (.mark .slash, rest)
  | '%' :: rest =>
    match rest with
    | '=' :: more => some (augmentedMark .remainder more)
    | _ => some (.mark .percent, rest)
  | '@' :: rest =>
    match rest with
    | '=' :: more => some (augmentedMark .matrixMultiply more)
    | _ => some (.mark .at_, rest)
  | '&' :: rest =>
    match rest with
    | '=' :: more => some (augmentedMark .bitAnd more)
    | _ => some (.mark .ampersand, rest)
  | '|' :: rest =>
    match rest with
    | '=' :: more => some (augmentedMark .bitOr more)
    | _ => some (.mark .bar, rest)
  | '^' :: rest =>
    match rest with
    | '=' :: more => some (augmentedMark .bitXor more)
    | _ => some (.mark .caret, rest)
  | '<' :: rest =>
    match rest with
    | '<' :: '=' :: more => some (augmentedMark .shiftLeft more)
    | '<' :: more => some (.mark .shiftLeft, more)
    | '=' :: more => some (.mark .lessEqual, more)
    | '>' :: more => some (.mark .lessGreater, more)
    | _ => some (.mark .less, rest)
  | '>' :: rest =>
    match rest with
    | '>' :: '=' :: more => some (augmentedMark .shiftRight more)
    | '>' :: more => some (.mark .shiftRight, more)
    | '=' :: more => some (.mark .greaterEqual, more)
    | _ => some (.mark .greater, rest)
  | _ => none

/-- The first character of a word that no identifier may hold at its place. -/
def badCharacter? : List Char → Option Char
  | [] => none
  | c :: rest =>
    if Text.isIdentifierStart c then rest.find? fun d => !Text.isIdentifierPart d else some c

/-- The kind of a word. -/
def wordKind (word : List Char) : Token.Kind :=
  match Keyword.ofSpelling? word with
  | some keyword => .keyword keyword
  | none => .name

/-- The kind of the token that a text begins with, and what stands behind it. -/
def lexeme (line : Nat) (rest : List Char) : Except Cause (Token.Kind × List Char) :=
  match textStart? rest with
  | some letters => do return (.text, ← textEnd line (rest.drop letters))
  | none =>
    match rest with
    | [] => .ok (.finish, [])
    | c :: more =>
      if isWordStart c then
        let word := rest.takeWhile isWordPart
        match badCharacter? word with
        | some bad => .error (.character bad)
        | none => .ok (wordKind word, rest.dropWhile isWordPart)
      else if c.isDigit || (c == '.' && (more.head?.map Char.isDigit).getD false) then do
        return (.number, ← numberTail rest)
      else
        match markAt? rest with
        | some found => .ok found
        | none => if Text.isPrintable c then .ok (.stray, more) else .error (.character c)

/-! ## Brackets -/

/-- More brackets than this may not stand open at once. -/
def maxBrackets : Nat := 200

/-- The bracket that closes an opening one. -/
def closingOf (opening : Char) : Char :=
  if opening = '(' then ')' else if opening = '[' then ']' else '\x7d'

/-- The open brackets behind a token, innermost first. -/
def bracketsAfter (brackets : List Bracket) (line : Nat) (kind : Token.Kind) :
    Except Cause (List Bracket) :=
  match kind with
  | .mark .openParen => opened '('
  | .mark .openBracket => opened '['
  | .mark .openBrace => opened '\x7b'
  | .mark .closeParen => closed ')'
  | .mark .closeBracket => closed ']'
  | .mark .closeBrace => closed '\x7d'
  | _ => .ok brackets
where
  /-- With one more opening bracket. -/
  opened (bracket : Char) : Except Cause (List Bracket) :=
    if brackets.length ≥ maxBrackets then .error .tooManyBrackets
    else .ok (⟨bracket, line⟩ :: brackets)
  /-- Without the bracket that this one closes. -/
  closed (bracket : Char) : Except Cause (List Bracket) :=
    match brackets with
    | [] => .error (.unmatched bracket)
    | innermost :: outer =>
      if closingOf innermost.opening = bracket then .ok outer
      else
        .error (.mismatched bracket innermost.opening
          (if innermost.line = line then none else some innermost.line))

/-! ## Indentation -/

/-- The width of an indentation: with tabs to the next multiple of eight, and with tabs as wide as
a space.  Two indentations agree only when both widths do. -/
structure Indentation where
  wide : Nat
  narrow : Nat
deriving DecidableEq, Repr

/-- The indentation at the start of a line and the cursor behind it.  A backslash at the end of
the line fixes the width reached before it; a form feed starts the width anew. -/
def indentation (line column wide narrow fixed : Nat) :
    List Char → Except Fault (Indentation × Cursor)
  | ' ' :: rest => indentation line (column + 1) (wide + 1) (narrow + 1) fixed rest
  | '\t' :: rest => indentation line (column + 1) ((wide / 8 + 1) * 8) (narrow + 1) fixed rest
  | '\x0c' :: rest => indentation line (column + 1) 0 0 fixed rest
  | '\\' :: rest =>
    match rest with
    | '\n' :: more =>
      if more.isEmpty then .error ⟨.endOfText, line⟩
      else indentation (line + 1) 0 wide narrow (if fixed = 0 then wide else fixed) more
    | _ => .error ⟨.continuation, line⟩
  | rest =>
    .ok (if fixed = 0 then ⟨wide, narrow⟩ else ⟨fixed, fixed⟩, ⟨rest, line, column⟩)

/-- This many indentations may not be open at once. -/
def maxIndents : Nat := 100

/-- Closes the indentations wider than a given one; the count of those closed and those left. -/
def closeIndents (wide : Nat) : List Indentation → Nat × List Indentation
  | [] => (0, [])
  | innermost :: outer =>
    if wide < innermost.wide then
      let (count, left) := closeIndents wide outer
      (count + 1, left)
    else (0, innermost :: outer)

/-- The tokens that a line's indentation gives rise to, and the indentations open behind them. -/
def indentTokens (open_ : List Indentation) (own : Indentation) :
    Except Cause (List Token.Kind × List Indentation) :=
  let current := open_.head?.getD ⟨0, 0⟩
  if own.wide = current.wide then
    if own.narrow = current.narrow then .ok ([], open_) else .error .tabs
  else if current.wide < own.wide then
    if open_.length + 1 ≥ maxIndents then .error .tooManyIndents
    else if own.narrow ≤ current.narrow then .error .tabs
    else .ok ([.indent], own :: open_)
  else
    let (count, left) := closeIndents own.wide open_
    let outer := left.head?.getD ⟨0, 0⟩
    if own.wide ≠ outer.wide then .error .dedent
    else if own.narrow ≠ outer.narrow then .error .tabs
    else .ok (List.replicate count .dedent, left)

/-! ## The whole text -/

/-- The text with uniform line ends and a newline at its end.  A carriage return with a newline at
the very end leaves an empty line behind. -/
def uniformLines (text : List Char) : List Char :=
  let unified := Text.unifyNewlines text
  if unified.getLast? = some '\n' ∧ text.reverse.take 2 ≠ ['\n', '\r'] then unified
  else unified ++ ['\n']

/-- Where in a line the scan stands. -/
inductive Stand where
  | lineStart
  /-- Behind the indentation; a blank line gives no tokens. -/
  | inLine (blank : Bool)

/-- A fault as the end of the tokens.  Inside brackets an end of the text means that the innermost
one was not closed. -/
def Ending.ofFault (fault : Fault) (sharp : Bool) (brackets : List Bracket) : Ending :=
  match fault.cause, brackets with
  | .endOfText, innermost :: _ =>
    .broken ⟨.neverClosed innermost.opening, innermost.line⟩ false (some innermost)
  | _, _ => .broken fault sharp brackets.head?

/-- Cuts a text into tokens, newest first in the accumulator. -/
def scan : Nat → Stand → List Indentation → List Bracket → Cursor → List Token →
    List Token × Ending
  | 0, _, _, brackets, cursor, tokens =>
    (tokens, .ofFault ⟨.endOfText, cursor.readLine⟩ false brackets)
  | fuel + 1, .lineStart, indents, brackets, cursor, tokens =>
    match indentation cursor.line 0 0 0 0 cursor.rest with
    | .error fault => (tokens, .ofFault fault false brackets)
    | .ok (own, cursor) =>
      let blank := cursor.rest.head? = some '#' ∨ cursor.rest.head? = some '\n'
      if blank ∨ !brackets.isEmpty then
        scan fuel (.inLine (decide blank)) indents brackets cursor tokens
      else
        match indentTokens indents own with
        | .error cause => (tokens, .ofFault ⟨cause, cursor.readLine⟩ false brackets)
        | .ok (kinds, indents) =>
          let place : Place := ⟨cursor.readLine, cursor.column⟩
          let layout := kinds.map fun kind => (⟨kind, [], ⟨place, place⟩, 0⟩ : Token)
          scan fuel (.inLine false) indents brackets cursor (layout ++ tokens)
  | fuel + 1, .inLine blank, indents, brackets, cursor, tokens =>
    match cursor.rest with
    | [] =>
      if brackets.isEmpty then
        let place : Place := ⟨cursor.readLine, cursor.column⟩
        (⟨.finish, [], ⟨place, place⟩, 0⟩ :: tokens, .finished)
      else (tokens, .ofFault ⟨.endOfText, cursor.readLine⟩ false brackets)
    | c :: rest =>
      if c = ' ' ∨ c = '\t' ∨ c = '\x0c' then
        scan fuel (.inLine blank) indents brackets cursor.next tokens
      else if c = '#' then
        let comment := cursor.rest.takeWhile (· != '\n')
        scan fuel (.inLine blank) indents brackets (cursor.skip comment.length) tokens
      else if c = '\n' then
        let token : Token := ⟨.newline, [], ⟨cursor.place, cursor.place⟩, 0⟩
        scan fuel .lineStart indents brackets cursor.next
          (if blank || !brackets.isEmpty then tokens else token :: tokens)
      else if c = '\\' then
        match rest with
        | '\n' :: more =>
          if more.isEmpty then (tokens, .ofFault ⟨.endOfText, cursor.line⟩ false brackets)
          else scan fuel (.inLine false) indents brackets cursor.next.next tokens
        | _ => (tokens, .ofFault ⟨.continuation, cursor.line⟩ false brackets)
      else
        match lexeme cursor.line cursor.rest with
        | .error cause => (tokens, .ofFault ⟨cause, cursor.line⟩ true brackets)
        | .ok (kind, behind) =>
          match bracketsAfter brackets cursor.line kind with
          | .error cause => (tokens, .ofFault ⟨cause, cursor.line⟩ true brackets)
          | .ok brackets =>
            let count := cursor.rest.length - behind.length
            let next := cursor.skip count
            let token : Token :=
              ⟨kind, cursor.rest.take count, ⟨cursor.place, next.place⟩, brackets.length⟩
            scan fuel (.inLine false) indents brackets next (token :: tokens)

/-- The tokens of a text whose first line has a given number. -/
def TokenSequence.ofLines (firstLine : Nat) (text : List Char) : TokenSequence :=
  let text := uniformLines text
  let (tokens, ending) := scan (2 * text.length + 4) .lineStart [] [] ⟨text, firstLine, 0⟩ []
  ⟨tokens.reverse.toArray, ending⟩

/-- The tokens of a text. -/
def TokenSequence.ofText (text : List Char) : TokenSequence := .ofLines 1 text

end AdjointSynthesis.Code

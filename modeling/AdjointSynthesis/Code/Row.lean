import AdjointSynthesis.Code.Scan

/-!
# Rows

A row is what a line break ends: a statement with all lines that it goes on over, or a comment alone
on its line.  Rows are found without reading the program, so a text may begin in the middle of one.

* `definitionEnd` finds where the definition that a text begins with ends: behind the decorators and
  the head come the rows indented deeper than the head, and the comments among or behind them that
  are indented like the body.
-/

namespace AdjointSynthesis.Code

/-- What a row begins. -/
inductive RowRole where
  | comment | decorator | definition | lambda | other
deriving DecidableEq, Repr

/-- A row with the width and the length of its indentation and the line that it ends on. -/
structure Row where
  role : RowRole
  width : Nat
  column : Nat
  last : Nat
deriving DecidableEq, Repr

/-- The role of a row that goes on with a token; the first token that tells decides. -/
def RowRole.after (role : RowRole) (kind : Token.Kind) : RowRole :=
  match role, kind with
  | .other, .mark .at_ => .decorator
  | .other, .keyword .def_ => .definition
  | .other, .keyword .class_ => .definition
  | .other, .keyword .lambda_ => .lambda
  | _, _ => role

/-- How many brackets a token opens, less those it closes. -/
def bracketChange : Token.Kind → Int
  | .mark .openParen => 1
  | .mark .openBracket => 1
  | .mark .openBrace => 1
  | .mark .closeParen => -1
  | .mark .closeBracket => -1
  | .mark .closeBrace => -1
  | _ => 0

/-- The role of a row, the line that it ends on and the place behind it, read on from a place inside
it.  What is no token is passed over. -/
def restOfRow : Nat → Int → RowRole → Cursor → RowRole × Nat × Cursor
  | 0, _, role, cursor => (role, cursor.line, cursor)
  | fuel + 1, depth, role, cursor =>
    match cursor.rest with
    | [] => (role, cursor.line, cursor)
    | c :: rest =>
      if c = '\n' then
        if 0 < depth then restOfRow fuel depth role cursor.next
        else (role, cursor.line, cursor.next)
      else if c = '#' then
        let comment := cursor.rest.takeWhile (· != '\n')
        restOfRow fuel depth role (cursor.skip comment.length)
      else if c = '\\' then
        let count := if rest.head? = some '\n' then 2 else 1
        restOfRow fuel depth role (cursor.skip count)
      else if c = ' ' ∨ c = '\t' ∨ c = '\x0c' then restOfRow fuel depth role cursor.next
      else
        match lexeme cursor.line cursor.rest with
        | .error _ => restOfRow fuel depth role cursor.next
        | .ok (kind, behind) =>
          restOfRow fuel (depth + bracketChange kind) (role.after kind)
            (cursor.skip (cursor.rest.length - behind.length))

/-- The width of an indentation: a tab reaches to the next multiple of eight and a form feed starts
anew. -/
def indentWidth (indent : List Char) : Nat :=
  indent.foldl
    (fun width c => if c = '\t' then (width / 8 + 1) * 8 else if c = ' ' then width + 1 else 0) 0

/-- The rows from the beginning of a line on. -/
def rowsFrom : Nat → Cursor → List Row
  | 0, _ => []
  | fuel + 1, cursor =>
    let indent := cursor.rest.takeWhile fun c => c == ' ' || c == '\t' || c == '\x0c'
    let start := cursor.skip indent.length
    match start.rest with
    | [] => []
    | '\n' :: _ => rowsFrom fuel start.next
    | '#' :: _ =>
      let (_, last, behind) := restOfRow start.rest.length 0 .comment start
      ⟨.comment, indentWidth indent, indent.length, last⟩ :: rowsFrom fuel behind
    | _ =>
      let (role, last, behind) := restOfRow (start.rest.length + 1) 0 .other start
      ⟨role, indentWidth indent, indent.length, last⟩ :: rowsFrom fuel behind

/-- The rows of a text with lines counted from one. -/
def rows (text : List Char) : List Row := rowsFrom (text.length + 1) ⟨text, 1, 0⟩

/-- The line that a body ends on whose head has a width and whose first row has a column. -/
def bodyEnd (width column last : Nat) : List Row → Nat
  | [] => last
  | row :: rest =>
    if row.role = .comment then
      bodyEnd width column (if column ≤ row.column then row.last else last) rest
    else if width < row.width then bodyEnd width column row.last rest
    else last

/-- The line that the definition ends on which some rows begin with. -/
def definitionEnd (last : Nat) : List Row → Nat
  | [] => last
  | row :: rest =>
    match row.role with
    | .comment => definitionEnd last rest
    | .lambda => row.last
    | .definition =>
      match rest.find? (·.role != .comment) with
      | some first =>
        if row.width < first.width then bodyEnd row.width first.column row.last rest
        else row.last
      | none => row.last
    | _ => definitionEnd row.last rest

end AdjointSynthesis.Code

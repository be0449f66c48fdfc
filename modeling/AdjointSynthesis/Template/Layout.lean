import AdjointSynthesis.Template.Fault
import AdjointSynthesis.Text.Digit

/-!
# Layouts of texts

How a text is set into a field: on which side it stands, how wide the field is at least, what fills
it up, and how much of the text is kept.  A layout is written as fill and alignment, sign, z, #, 0,
width, separators, precision and type, each of which may be missing; most of them are for numbers
and not allowed here.
-/

namespace AdjointSynthesis.Template

/-- Where a text stands in a wider field. -/
inductive Alignment where
  | left | right | center
  /-- Between sign and digits, which a text does not have. -/
  | inside
deriving DecidableEq, Repr

/-- The alignment of a sign. -/
def Alignment.ofSign? (c : Char) : Option Alignment :=
  if c = '<' then some .left
  else if c = '>' then some .right
  else if c = '^' then some .center
  else if c = '=' then some .inside
  else none

/-- How a text is set into a field. -/
structure Layout where
  fill : Char
  alignment : Alignment
  sign : Option Char
  zero : Bool
  alternate : Bool
  width : Option Nat
  precision : Option Nat
  type : Char
deriving DecidableEq, Repr

/-- A part of a layout that is one character, if it stands here. -/
def takeIf (accept : Char → Bool) : List Char → Option Char × List Char
  | [] => (none, [])
  | c :: rest => if accept c then (some c, rest) else (none, c :: rest)

/-- The fill and the alignment that a layout begins with. -/
def takeAlignment : List Char → Option Char × Option Alignment × List Char
  | c :: d :: rest =>
    match Alignment.ofSign? d with
    | some alignment => (some c, some alignment, rest)
    | none =>
      match Alignment.ofSign? c with
      | some alignment => (none, some alignment, d :: rest)
      | none => (none, none, c :: d :: rest)
  | c :: rest =>
    match Alignment.ofSign? c with
    | some alignment => (none, some alignment, rest)
    | none => (none, none, c :: rest)
  | [] => (none, none, [])

/-- A number that may stand here. -/
def takeNumber (rest : List Char) : Except Fault (Option Nat × List Char) :=
  match Text.leadingNumber 0 0 rest with
  | none => .error .numberTooGreat
  | some (value, count, rest) => .ok (if count = 0 then none else some value, rest)

/-- The separator of thousands. -/
def takeSeparator (rest : List Char) : Except Fault (Option Char × List Char) :=
  let (comma, rest) := takeIf (· == ',') rest
  let (line, rest) := takeIf (· == '_') rest
  if line.isSome && (comma.isSome || rest.head? == some ',') then .error .bothSeparators
  else .ok (if line.isSome then line else comma, rest)

/-- The precision. -/
def takePrecision : List Char → Except Fault (Option Nat × List Char)
  | '.' :: rest => do
    match ← takeNumber rest with
    | (none, _) => .error .missingPrecision
    | found => .ok found
  | rest => .ok (none, rest)

/-- The types of numbers that may have a separator of thousands. -/
def separable (sign type : Char) : Bool :=
  ['d', 'e', 'f', 'g', 'E', 'G', '%', 'F', '\x00'].contains type ||
    (sign == '_' && ['b', 'o', 'x', 'X'].contains type)

/-- The layout that a text stands for. -/
def Layout.read (written : List Char) : Except Fault Layout := do
  let (fill, alignment, rest) := takeAlignment written
  let (sign, rest) := takeIf (fun c => c == ' ' || c == '+' || c == '-') rest
  let (zero, rest) := takeIf (· == 'z') rest
  let (alternate, rest) := takeIf (· == '#') rest
  let (padding, rest) := if fill.isSome then (none, rest) else takeIf (· == '0') rest
  let (width, rest) ← takeNumber rest
  let (separator, rest) ← takeSeparator rest
  let (precision, rest) ← takePrecision rest
  let type ←
    match rest with
    | [] => pure 's'
    | [c] => pure c
    | _ => throw (.format written)
  match separator with
  | some sign => if separable sign type then pure () else throw (.separator sign type)
  | none => pure ()
  return ⟨fill.getD (padding.getD ' '), alignment.getD .left, sign, zero.isSome, alternate.isSome,
    width, precision, type⟩

/-- Refuses what is only for numbers. -/
def Layout.check (layout : Layout) : Except Fault Unit :=
  if layout.type ≠ 's' then .error (.type layout.type)
  else if layout.sign = some ' ' then .error .space
  else if layout.sign.isSome then .error .sign
  else if layout.zero then .error .zero
  else if layout.alternate then .error .alternate
  else if layout.alignment = .inside then .error .alignment
  else .ok ()

/-- A text set into a field. -/
def Layout.apply (layout : Layout) (text : List Char) : List Char :=
  let kept :=
    match layout.precision with
    | some count => text.take count
    | none => text
  let missing := layout.width.getD 0 - kept.length
  let before :=
    match layout.alignment with
    | .right => missing
    | .center => missing / 2
    | _ => 0
  List.replicate before layout.fill ++ kept ++ List.replicate (missing - before) layout.fill

/-- A text set into a field as a layout says.  The empty layout leaves it as it is. -/
def layOut (written text : List Char) : Except Fault (List Char) := do
  if written.isEmpty then return text
  let layout ← Layout.read written
  layout.check
  return layout.apply text

end AdjointSynthesis.Template

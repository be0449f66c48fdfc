import AdjointSynthesis.Text.Printable

/-!
# Quoted texts

How a text is shown in a message.  It stands in single quotes, or in double quotes when it holds a
single quote and no double quote.  The quote that surrounds it, backslashes, newlines, carriage
returns and tabs are written with a backslash, other unprintable characters by their code in the
shortest of the three hexadecimal forms.
-/

namespace AdjointSynthesis.Text

/-- A digit in base sixteen. -/
def hexDigit (upper : Bool) (value : Nat) : Char :=
  if value < 10 then Char.ofNat (48 + value)
  else Char.ofNat ((if upper then 55 else 87) + value)

/-- The digits of a number in base sixteen, at least a given count of them. -/
def hex (upper : Bool) : Nat → Nat → List Char
  | 0, value => if value = 0 then [] else wide 8 value
  | width + 1, value => hex upper width (value / 16) ++ [hexDigit upper (value % 16)]
where
  /-- The digits of a number without leading zeros, as far as the fuel goes. -/
  wide : Nat → Nat → List Char
    | 0, _ => []
    | fuel + 1, value =>
      if value = 0 then [] else wide fuel (value / 16) ++ [hexDigit upper (value % 16)]

/-- A text counts as single-quoted unless it holds a single quote and no double quote. -/
def quoteFor (text : List Char) : Char :=
  if text.contains '\'' && !text.contains '"' then '"' else '\''

/-- How one character is written between quotes. -/
def escape (quote c : Char) : List Char :=
  if c = quote ∨ c = '\\' then ['\\', c]
  else if c = '\n' then ['\\', 'n']
  else if c = '\r' then ['\\', 'r']
  else if c = '\t' then ['\\', 't']
  else if isPrintable c then [c]
  else if c.toNat < 0x100 then '\\' :: 'x' :: hex false 2 c.toNat
  else if c.toNat < 0x10000 then '\\' :: 'u' :: hex false 4 c.toNat
  else '\\' :: 'U' :: hex false 8 c.toNat

/-- The quoted form of a text. -/
def quoted (text : List Char) : List Char :=
  let quote := quoteFor text
  quote :: text.flatMap (escape quote) ++ [quote]

/-- The quoted form of a string. -/
def quote (text : String) : String := String.ofList (quoted text.toList)

end AdjointSynthesis.Text

import AdjointSynthesis.Text.Blank
import AdjointSynthesis.Text.Lines

/-!
# Margins

The margin of a text is the longest run of spaces and tabs that all its lines with content begin
with.  `dedent` takes it off, `indent` puts one on.

* A line of spaces and tabs only has no content: `dedent` empties it and it does not count for the
  margin.  Lines end at newlines here.
* `indent` goes by the wider notion of a line and leaves blank lines alone.
-/

namespace AdjointSynthesis.Text

/-- Whether a character may belong to a margin. -/
def isMarginal (c : Char) : Bool := c == ' ' || c == '\t'

/-- The line, emptied when it holds spaces and tabs only. -/
def clearBlank (line : List Char) : List Char := if line.all isMarginal then [] else line

/-- The longest common beginning of two words. -/
def commonStart : List Char → List Char → List Char
  | c :: rest, d :: others => if c = d then c :: commonStart rest others else []
  | _, _ => []

/-- The margin shared by the lines with content, if there is such a line. -/
def margin? : List (List Char) → Option (List Char)
  | [] => none
  | line :: more =>
    if line.all isMarginal then margin? more
    else
      let own := line.takeWhile isMarginal
      match margin? more with
      | none => some own
      | some shared => some (commonStart own shared)

/-- The lines without their common margin. -/
def dedentLines (lines : List (List Char)) : List (List Char) :=
  lines.map fun line => (clearBlank line).drop ((margin? lines).getD []).length

/-- The text without its margin. -/
def dedent (text : List Char) : List Char := joinWith ['\n'] (dedentLines (splitOn '\n' text))

/-- The text with a beginning put before each line that is not blank. -/
def indent (start text : List Char) : List Char :=
  (cutLines text).flatMap fun line =>
    if (line.1 ++ line.2).all isBlank then line.1 ++ line.2 else start ++ (line.1 ++ line.2)

end AdjointSynthesis.Text

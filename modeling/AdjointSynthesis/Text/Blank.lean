import AdjointSynthesis.Text.Ranges

/-!
# White space

The white-space characters are those of the bidirectional types WS, B and S together with the space
separators.  `strip` takes them off both ends of a word.
-/

namespace AdjointSynthesis.Text

/-- The white-space characters. -/
def blankRanges : List (Nat × Nat) := [
  (0x9, 0xd), (0x1c, 0x20), (0x85, 0x85), (0xa0, 0xa0), (0x1680, 0x1680), (0x2000, 0x200a),
  (0x2028, 0x2029), (0x202f, 0x202f), (0x205f, 0x205f), (0x3000, 0x3000)]

/-- Whether a character is white space. -/
def isBlank (c : Char) : Bool := inRanges blankRanges c.toNat

/-- A text without the white space at its beginning. -/
def stripLeft (text : List Char) : List Char := text.dropWhile isBlank

/-- A text without the white space at its end. -/
def stripRight (text : List Char) : List Char := (text.reverse.dropWhile isBlank).reverse

/-- A text without the white space at its two ends. -/
def strip (text : List Char) : List Char := stripRight (stripLeft text)

/-- How many white-space characters a text begins with. -/
def leadingBlanks (text : List Char) : Nat := (text.takeWhile isBlank).length

theorem leadingBlanks_add_length_stripLeft (text : List Char) :
    leadingBlanks text + (stripLeft text).length = text.length := by
  rw [leadingBlanks, stripLeft, ← List.length_append, List.takeWhile_append_dropWhile]

end AdjointSynthesis.Text

/-!
# Upper and lower case

Case as far as it matters for comparing words with ASCII words.  Besides the ASCII letters, two
letters have an ASCII letter as their upper case and one has it as its lower case; no other
character turns into a single ASCII letter.
-/

namespace AdjointSynthesis.Text

/-- The upper case of a letter if that is an ASCII letter. -/
def upperLetter (c : Char) : Char :=
  if c = 'ı' then 'I' else if c = 'ſ' then 'S' else c.toUpper

/-- The lower case of a letter if that is an ASCII letter. -/
def lowerLetter (c : Char) : Char := if c = '\u212a' then 'k' else c.toLower

/-- A word in upper case. -/
def upperCase (word : String) : String := String.ofList (word.toList.map upperLetter)

/-- A word in lower case. -/
def lowerCase (word : String) : String := String.ofList (word.toList.map lowerLetter)

end AdjointSynthesis.Text

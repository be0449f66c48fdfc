/-!
# Lines

Three notions of a line are in use, and they differ.

* `splitLines` ends a line at any line boundary: newline, carriage return (alone or before a
  newline), vertical tab, form feed, the separators 0x1c to 0x1e, next line, and the line and
  paragraph separators.
* `splitOn '\n'` ends a line at a newline only and yields an empty last line after a final one.
* `unifyNewlines` is how a file is read: a carriage return, with or without a newline, becomes a
  newline.
-/

namespace AdjointSynthesis.Text

/-- Whether a character ends a line. -/
def isBoundary (c : Char) : Bool :=
  c == '\n' || c == '\r' || c == '\x0b' || c == '\x0c' || c == '\x1c' || c == '\x1d' ||
    c == '\x1e' || c == '\u0085' || c == '\u2028' || c == '\u2029'

/-- The lines of a text, each with the boundary that ends it. -/
def cutLines : List Char → List (List Char × List Char)
  | [] => []
  | '\r' :: '\n' :: rest => ([], ['\r', '\n']) :: cutLines rest
  | c :: rest =>
    if isBoundary c then ([], [c]) :: cutLines rest
    else
      match cutLines rest with
      | [] => [([c], [])]
      | (body, ending) :: more => (c :: body, ending) :: more

/-- The lines of a text without their boundaries. -/
def splitLines (text : List Char) : List (List Char) := (cutLines text).map Prod.fst

/-- The parts of a text between the occurrences of a character. -/
def splitOn (separator : Char) : List Char → List (List Char)
  | [] => [[]]
  | c :: rest =>
    if c = separator then [] :: splitOn separator rest
    else
      match splitOn separator rest with
      | [] => [[c]]
      | part :: more => (c :: part) :: more

/-- The parts with the separator between them. -/
def joinWith (separator : List Char) : List (List Char) → List Char
  | [] => []
  | [part] => part
  | part :: more => part ++ separator ++ joinWith separator more

/-- The lines, each ended by a newline. -/
def endLines (lines : List (List Char)) : List Char := lines.flatMap (· ++ ['\n'])

/-- The text with every carriage return, and a newline after it, made a newline. -/
def unifyNewlines : List Char → List Char
  | [] => []
  | '\r' :: '\n' :: rest => '\n' :: unifyNewlines rest
  | c :: rest => (if c = '\r' then '\n' else c) :: unifyNewlines rest

theorem splitOn_ne_nil (separator : Char) (text : List Char) : splitOn separator text ≠ [] := by
  cases text with
  | nil => simp [splitOn]
  | cons c rest =>
    rw [splitOn]
    split
    · simp
    · split <;> simp

/-- Joining undoes splitting. -/
theorem joinWith_splitOn (separator : Char) (text : List Char) :
    joinWith [separator] (splitOn separator text) = text := by
  induction text with
  | nil => rfl
  | cons c rest ih =>
    rw [splitOn]
    cases h : splitOn separator rest with
    | nil => exact absurd h (splitOn_ne_nil separator rest)
    | cons part more =>
      rw [h] at ih
      split
      · next hc => subst hc; simp [joinWith, ih]
      · cases more with
        | nil => simpa [joinWith] using ih
        | cons next others => simpa [joinWith] using ih

/-- The lines and their boundaries make up the text. -/
theorem flatMap_cutLines (text : List Char) :
    (cutLines text).flatMap (fun line => line.1 ++ line.2) = text := by
  fun_induction cutLines text with
  | case1 => rfl
  | case2 rest ih => simp [ih]
  | case3 c rest _ _ ih => simp [ih]
  | case4 c rest _ _ h ih =>
    rw [h] at ih
    simp only [List.flatMap_nil] at ih
    simp [← ih]
  | case5 c rest _ _ body ending more h ih =>
    rw [h] at ih
    simp only [List.flatMap_cons] at ih
    simp [← ih]

/-- No line holds what ends lines. -/
theorem not_mem_of_mem_cutLines {boundary : Char} (hboundary : isBoundary boundary = true)
    (text : List Char) : ∀ line ∈ cutLines text, boundary ∉ line.1 := by
  fun_induction cutLines text with
  | case1 => exact fun _ h => by cases h
  | case2 rest ih =>
    intro line hline
    rcases List.mem_cons.mp hline with rfl | hline
    · exact List.not_mem_nil
    · exact ih line hline
  | case3 c rest _ _ ih =>
    intro line hline
    rcases List.mem_cons.mp hline with rfl | hline
    · exact List.not_mem_nil
    · exact ih line hline
  | case4 c rest _ hc =>
    intro line hline hmem
    rw [List.mem_singleton.mp hline] at hmem
    rw [List.mem_singleton.mp hmem] at hboundary
    exact hc hboundary
  | case5 c rest _ hc body ending more hcut ih =>
    intro line hline
    rw [hcut] at ih
    rcases List.mem_cons.mp hline with rfl | hline
    · intro hmem
      rcases List.mem_cons.mp hmem with rfl | hmem
      · exact hc hboundary
      · exact ih _ List.mem_cons_self hmem
    · exact ih line (List.mem_cons_of_mem _ hline)

theorem not_mem_of_mem_splitLines {boundary : Char} (hboundary : isBoundary boundary = true)
    {text line : List Char} (h : line ∈ splitLines text) : boundary ∉ line := by
  obtain ⟨cut, hcut, rfl⟩ := List.mem_map.mp h
  exact not_mem_of_mem_cutLines hboundary text cut hcut

end AdjointSynthesis.Text

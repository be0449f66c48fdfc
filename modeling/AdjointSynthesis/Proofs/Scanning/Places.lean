import AdjointSynthesis.Proofs.Scanning.Ends
import AdjointSynthesis.Proofs.Scanning.Steps
import Mathlib.Data.List.Induction
import Mathlib.Data.List.TakeWhile

/-!
# Where tokens start

A token starts where the text before it ends: on the line behind the newlines of that text, at the
column that its last line is wide.  Columns count bytes.  They count characters as well on a line of
nothing but blanks, because no blank that is wider than a byte stands between tokens.

* `openLine`, `placeAfter`: what stands on the last line of a text, and the place behind it.
* `Cursor.StandsIn`: the invariant of a scan, which every step keeps.
* `startsIn_of_mem_ofText`: every token starts behind some beginning of the text.
-/

namespace AdjointSynthesis.Code

/-! ## The place behind a text -/

/-- What stands on the last line of a text. -/
def openLine (read : List Char) : List Char := (read.reverse.takeWhile (· != '\n')).reverse

/-- The place behind a text that starts a program. -/
def placeAfter (read : List Char) : Place := ⟨read.count '\n' + 1, bytesOf (openLine read)⟩

lemma openLine_newline (read : List Char) : openLine (read ++ ['\n']) = [] := by
  simp [openLine]

lemma openLine_concat {c : Char} (h : c ≠ '\n') (read : List Char) :
    openLine (read ++ [c]) = openLine read ++ [c] := by
  simp [openLine, h]

lemma openLine_append {line : List Char} (h : '\n' ∉ line) (read : List Char) :
    openLine (read ++ line) = openLine read ++ line := by
  induction line generalizing read with
  | nil => simp
  | cons c rest ih =>
    obtain ⟨hc, hrest⟩ := not_or.mp (List.mem_cons.not.mp h)
    rw [List.append_cons, ih hrest, openLine_concat (Ne.symm hc), ← List.append_cons]

lemma placeAfter_newline (read : List Char) :
    placeAfter (read ++ ['\n']) = ⟨(placeAfter read).line + 1, 0⟩ := by
  simp [placeAfter, openLine_newline, bytesOf]

lemma placeAfter_concat {c : Char} (h : c ≠ '\n') (read : List Char) :
    placeAfter (read ++ [c]) =
      ⟨(placeAfter read).line, (placeAfter read).column + byteWidth c⟩ := by
  have hcount : (read ++ [c]).count '\n' = read.count '\n' := by simp [h]
  rw [placeAfter, openLine_concat h, hcount, bytesOf_append]
  rfl

/-- Every text is the lines before its last one and that line. -/
lemma exists_eq_append_openLine (read : List Char) :
    ∃ before, read = before ++ openLine read ∧ openLine before = [] ∧
      (placeAfter before).line = (placeAfter read).line := by
  induction read using List.reverseRecOn with
  | nil => exact ⟨[], rfl, rfl, rfl⟩
  | append_singleton read c ih =>
    by_cases hc : c = '\n'
    · subst hc
      exact ⟨read ++ ['\n'], by rw [openLine_newline, List.append_nil], openLine_newline read, rfl⟩
    · obtain ⟨before, heq, hempty, hline⟩ := ih
      refine ⟨before, ?_, hempty, ?_⟩
      · rw [openLine_concat hc, ← List.append_assoc, ← heq]
      · rw [placeAfter_concat hc, hline]

/-! ## Lines of nothing but blanks -/

/-- Whether the characters of a line take a byte each, if it holds nothing but blanks. -/
def HasNarrowBlanks (line : List Char) : Prop :=
  (∀ c ∈ line, Text.isBlank c = true) → ∀ c ∈ line, byteWidth c = 1

lemma hasNarrowBlanks_nil : HasNarrowBlanks [] := fun _ _ hc => by cases hc

lemma hasNarrowBlanks_of_mem {line : List Char} {c : Char} (hmem : c ∈ line)
    (hc : Text.isBlank c = false) : HasNarrowBlanks line :=
  fun hblank => absurd (hblank c hmem) (by rw [hc]; decide)

lemma HasNarrowBlanks.concat {line : List Char} {c : Char} (h : HasNarrowBlanks line)
    (hc : byteWidth c = 1) : HasNarrowBlanks (line ++ [c]) := by
  intro hblank d hd
  rcases List.mem_append.mp hd with hd | hd
  · exact h (fun e he => hblank e (List.mem_append_left _ he)) d hd
  · rwa [List.mem_singleton.mp hd]

lemma HasNarrowBlanks.openLine_concat {read : List Char} {c : Char}
    (h : HasNarrowBlanks (openLine read)) (hc : byteWidth c = 1) :
    HasNarrowBlanks (openLine (read ++ [c])) := by
  by_cases hnewline : c = '\n'
  · rw [hnewline, openLine_newline]
    exact hasNarrowBlanks_nil
  · rw [Code.openLine_concat hnewline]
    exact h.concat hc

/-! ## Cursors in a text -/

/-- Whether a place is that behind a beginning of a text, where a token may start. -/
def StartsIn (text : List Char) (place : Place) : Prop :=
  ∃ read rest, text = read ++ rest ∧ place = placeAfter read ∧ HasNarrowBlanks (openLine read)

namespace Cursor

variable {cursor : Cursor} {read text : List Char}

/-- A cursor stands behind what was read of a text. -/
structure IsBehind (cursor : Cursor) (read text : List Char) : Prop where
  text_eq : text = read ++ cursor.rest
  place_eq : cursor.place = placeAfter read

lemma IsBehind.next {c : Char} {rest : List Char} (h : cursor.IsBehind read text)
    (hrest : cursor.rest = c :: rest) : cursor.next.IsBehind (read ++ [c]) text := by
  obtain ⟨htext, hplace⟩ := h
  constructor
  · rw [rest_next hrest, htext, hrest, List.append_cons]
  · rcases cursor with ⟨_, line, column⟩
    subst hrest
    obtain ⟨rfl, rfl⟩ := Place.mk.inj hplace
    by_cases hc : c = '\n'
    · subst hc
      rw [placeAfter_newline]
      rfl
    · rw [placeAfter_concat hc, Cursor.next]
      dsimp only
      rw [if_neg hc]
      rfl

lemma IsBehind.skip (h : cursor.IsBehind read text) (count : Nat) :
    (cursor.skip count).IsBehind (read ++ cursor.rest.take count) text := by
  induction count generalizing cursor read with
  | zero => rwa [Cursor.skip, List.take_zero, List.append_nil]
  | succ count ih =>
    cases hrest : cursor.rest with
    | nil =>
      have hnext : cursor.next = cursor := by rw [Cursor.next, hrest]
      have hskip := ih h
      rw [hrest, List.take_nil] at hskip
      rwa [Cursor.skip, hnext, List.take_nil]
    | cons c rest =>
      have hskip := ih (h.next hrest)
      rw [rest_next hrest, ← List.append_cons] at hskip
      rwa [Cursor.skip, List.take_succ_cons]

/-- A cursor stands where a token may start. -/
def StandsIn (cursor : Cursor) (text : List Char) : Prop :=
  ∃ read, cursor.IsBehind read text ∧ HasNarrowBlanks (openLine read)

lemma StandsIn.startsIn (h : cursor.StandsIn text) : StartsIn text cursor.place := by
  obtain ⟨read, ⟨htext, hplace⟩, hnarrow⟩ := h
  exact ⟨read, cursor.rest, htext, hplace, hnarrow⟩

lemma StandsIn.next {c : Char} {rest : List Char} (h : cursor.StandsIn text)
    (hrest : cursor.rest = c :: rest) (hc : byteWidth c = 1) : cursor.next.StandsIn text := by
  obtain ⟨read, hbehind, hnarrow⟩ := h
  exact ⟨read ++ [c], hbehind.next hrest, hnarrow.openLine_concat hc⟩

/-- A comment holds the character that it begins with. -/
lemma StandsIn.skip_comment {rest : List Char} (h : cursor.StandsIn text)
    (hrest : cursor.rest = '#' :: rest) :
    (cursor.skip (cursor.rest.takeWhile (· != '\n')).length).StandsIn text := by
  obtain ⟨read, hbehind, -⟩ := h
  have htake : cursor.rest.take (cursor.rest.takeWhile (· != '\n')).length =
      cursor.rest.takeWhile (· != '\n') :=
    (List.prefix_iff_eq_take.mp (List.takeWhile_prefix _)).symm
  have hskip := hbehind.skip (cursor.rest.takeWhile (· != '\n')).length
  rw [htake] at hskip
  refine ⟨_, hskip, ?_⟩
  have hline : '\n' ∉ cursor.rest.takeWhile (· != '\n') := fun hmem => by
    have := List.mem_takeWhile_imp hmem
    simp at this
  rw [openLine_append hline, hrest]
  have hmem : '#' ∈ openLine read ++ ('#' :: rest).takeWhile (· != '\n') :=
    List.mem_append_right _ List.mem_cons_self
  exact hasNarrowBlanks_of_mem hmem (by decide)

/-- A token ends with a character that is no blank, so that this stands on its last line. -/
lemma StandsIn.skip_closes {behind : List Char} (h : cursor.StandsIn text)
    (hcloses : Closes cursor.rest behind) :
    (cursor.skip (cursor.rest.length - behind.length)).StandsIn text := by
  obtain ⟨read, hbehind, -⟩ := h
  obtain ⟨taken, last, hrest, hlast⟩ := hcloses.exists_eq
  rw [List.append_cons] at hrest
  have hcount : cursor.rest.length - behind.length = (taken ++ [last]).length := by
    rw [hrest, List.length_append, Nat.add_sub_cancel]
  have htake : cursor.rest.take (taken ++ [last]).length = taken ++ [last] := by
    rw [hrest, List.take_left]
  have hskip := hbehind.skip (taken ++ [last]).length
  rw [htake, ← List.append_assoc] at hskip
  rw [hcount]
  refine ⟨_, hskip, ?_⟩
  have hne : last ≠ '\n' := by
    rintro rfl
    cases hlast
  rw [openLine_concat hne]
  exact hasNarrowBlanks_of_mem (List.mem_append_right _ (List.mem_singleton.mpr rfl)) hlast

lemma standsIn_indentation {line column wide narrow fixed : Nat} {rest : List Char}
    {own : Indentation} {behind : Cursor}
    (hown : indentation line column wide narrow fixed rest = .ok (own, behind))
    (h : StandsIn ⟨rest, line, column⟩ text) : behind.StandsIn text := by
  fun_induction indentation line column wide narrow fixed rest with
  | case1 _ _ _ _ _ _ ih => exact ih hown (h.next rfl rfl)
  | case2 _ _ _ _ _ _ ih => exact ih hown (h.next rfl rfl)
  | case3 _ _ _ _ _ _ ih => exact ih hown (h.next rfl rfl)
  | case4 => cases hown
  | case5 _ _ _ _ _ _ _ ih => exact ih hown ((h.next rfl rfl).next rfl rfl)
  | case6 => cases hown
  | case7 =>
    cases hown
    exact h

end Cursor

/-! ## The tokens of a run -/

namespace Scanner

variable {scanner next : Scanner} {tokens : List Token} {text : List Char}

/-- A state of the scan stands where a token may start, and a line starts at its first column. -/
structure StandsIn (scanner : Scanner) (text : List Char) : Prop where
  cursor : scanner.cursor.StandsIn text
  column : scanner.stand = .lineStart → scanner.cursor.column = 0

lemma StandsIn.behind {indents : List Indentation} {brackets : List Bracket}
    {cursor behind : Cursor} {own : Indentation}
    (h : StandsIn ⟨.lineStart, indents, brackets, cursor⟩ text)
    (hown : indentation cursor.line 0 0 0 0 cursor.rest = .ok (own, behind)) :
    behind.StandsIn text := by
  have hcolumn : cursor.column = 0 := h.column rfl
  refine Cursor.standsIn_indentation hown ?_
  rw [← hcolumn]
  exact h.cursor

/-- Behind the indentation of a line nothing is asked of the column. -/
lemma standsIn_inLine {cursor : Cursor} {blank : Bool} {indents : List Indentation}
    {brackets : List Bracket} (h : cursor.StandsIn text) :
    StandsIn ⟨.inLine blank, indents, brackets, cursor⟩ text := by
  refine ⟨h, fun hstand => ?_⟩
  cases hstand

lemma StandsIn.goes (h : scanner.StandsIn text) (hgoes : Goes scanner tokens next) :
    next.StandsIn text := by
  cases hgoes with
  | blankLine hown _ => exact standsIn_inLine (h.behind hown)
  | line hown _ _ => exact standsIn_inLine (h.behind hown)
  | space hrest hc =>
    exact standsIn_inLine (h.cursor.next hrest (by rcases hc with rfl | rfl | rfl <;> rfl))
  | comment hrest => exact standsIn_inLine (h.cursor.skip_comment hrest)
  | newline hrest =>
    refine ⟨h.cursor.next hrest rfl, fun _ => ?_⟩
    dsimp only
    rw [Cursor.next, hrest]
    rfl
  | continuation hrest _ =>
    exact standsIn_inLine ((h.cursor.next hrest rfl).next (Cursor.rest_next hrest) rfl)
  | @word _ _ _ _ cursor _ _ _ _ hrest hc hlexeme _ =>
    have hcloses := closes_lexeme hc.1 hlexeme
    rw [← hrest] at hcloses ⊢
    exact standsIn_inLine (h.cursor.skip_closes hcloses)

/-- Layout at the end of a text counts to the line before, which the text ends. -/
lemma startsIn_layoutToken {cursor : Cursor} (h : cursor.StandsIn text)
    (hend : text.getLast? = some '\n') (kind : Token.Kind) :
    StartsIn text (layoutToken cursor kind).span.start := by
  obtain ⟨read, hbehind, hnarrow⟩ := h
  cases hrest : cursor.rest with
  | cons c rest =>
    have hline : cursor.readLine = cursor.line := by simp [Cursor.readLine, hrest]
    have hstart : (layoutToken cursor kind).span.start = cursor.place := by
      rw [layoutToken, hline]
      rfl
    exact ⟨read, cursor.rest, hbehind.text_eq, hstart.trans hbehind.place_eq, hnarrow⟩
  | nil =>
    obtain ⟨htext, hplace⟩ := hbehind
    rw [hrest, List.append_nil] at htext
    subst htext
    obtain ⟨lines, rfl⟩ := List.getLast?_eq_some_iff.mp hend
    obtain ⟨before, heq, hempty, hline⟩ := exists_eq_append_openLine lines
    rw [placeAfter_newline] at hplace
    obtain ⟨hcursor, hcolumn⟩ := Place.mk.inj hplace
    refine ⟨before, openLine lines ++ ['\n'], ?_, ?_, hempty ▸ hasNarrowBlanks_nil⟩
    · rw [← List.append_assoc, ← heq]
    · have hread : cursor.readLine = cursor.line - 1 := by simp [Cursor.readLine, hrest]
      rw [layoutToken, hread, hcursor, hcolumn, Nat.add_sub_cancel, ← hline]
      rw [placeAfter, hempty]
      rfl

lemma StandsIn.startsIn_of_goes (h : scanner.StandsIn text) (hgoes : Goes scanner tokens next)
    (hend : text.getLast? = some '\n') : ∀ token ∈ tokens, StartsIn text token.span.start := by
  intro token hmem
  cases hgoes with
  | line hown _ _ =>
    obtain ⟨kind, -, rfl⟩ := List.mem_map.mp hmem
    exact startsIn_layoutToken (h.behind hown) hend kind
  | newline hrest =>
    split at hmem
    · cases hmem
    · rw [List.mem_singleton.mp hmem]
      exact h.cursor.startsIn
  | word hrest hc hlexeme _ =>
    rw [List.mem_singleton.mp hmem]
    exact h.cursor.startsIn
  | _ => cases hmem

/-- Where a run stops, at most the end of the text is added. -/
lemma mem_of_stops {ending : Ending} (h : scanner.step = .stops tokens ending) :
    ∀ token ∈ tokens, token = layoutToken scanner.cursor .finish := by
  intro token hmem
  rcases step_stops h with ⟨-, rfl, -⟩ | ⟨rfl, -⟩
  · exact List.mem_singleton.mp hmem
  · cases hmem

/-- **Every token of a run starts behind a beginning of the text.** -/
theorem startsIn_of_mem_run (hend : text.getLast? = some '\n') (h : scanner.StandsIn text) :
    ∀ token ∈ scanner.run.1, StartsIn text token.span.start := by
  refine forall_mem_run (I := fun scanner => scanner.StandsIn text)
    (fun hstands hgoes => ⟨hstands.goes hgoes, hstands.startsIn_of_goes hgoes hend⟩) ?_ h
  intro scanner tokens ending hstands hstops token hmem
  rw [mem_of_stops hstops token hmem]
  exact startsIn_layoutToken hstands.cursor hend _

/-- A text is scanned from where a token may start. -/
lemma standsIn_start (text : List Char) :
    (start 1 (uniformLines text)).StandsIn (uniformLines text) :=
  ⟨⟨[], ⟨rfl, rfl⟩, hasNarrowBlanks_nil⟩, fun _ => rfl⟩

end Scanner

lemma getLast?_uniformLines (text : List Char) : (uniformLines text).getLast? = some '\n' := by
  unfold uniformLines
  dsimp only
  split
  · next h => exact h.1
  · exact List.getLast?_concat

/-- **Every token of a text starts behind a beginning of it.** -/
theorem startsIn_of_mem_ofText {text : List Char} {token : Token}
    (h : token ∈ (TokenSequence.ofText text).tokens) :
    StartsIn (uniformLines text) token.span.start := by
  have hmem : token ∈ (TokenSequence.ofText text).tokens.toList := Array.mem_toList_iff.mpr h
  rw [TokenSequence.ofText, (Scanner.ofLines_eq 1 text).1, List.mem_reverse] at hmem
  exact Scanner.startsIn_of_mem_run (getLast?_uniformLines text) (Scanner.standsIn_start text) token
    hmem

end AdjointSynthesis.Code

import AdjointSynthesis.Proofs.ReadBack
import AdjointSynthesis.Proofs.Refusals

/-!
# Margins

Whoever reads a text takes off its margin first, so it does not matter how far in the text stands.
All that there is to show is about lines: lines that stand further in by one common beginning lose
that beginning with their margin.

* `IsIndented`: a line that stands further in than another one.
* `dedentLines_of_indented`: without their margins, lines that stand further in are the same.
* `dedent_dedent`, `dedent_indent`: a text without its margin stands further out than the text, and
  an indented text further in.
* `ofText_own_text_and_indent`: what follows for usages and definitions.
-/

namespace AdjointSynthesis

namespace Text

/-! ## Lines that stand further in -/

/-- A line is another one behind a beginning, or neither of them has content. -/
def IsIndented (start line other : List Char) : Prop :=
  line.all isMarginal ∧ other.all isMarginal ∨ ¬other.all isMarginal ∧ line = start ++ other

section
variable {start : List Char} {lines others : List (List Char)}

lemma commonStart_append (start word other : List Char) :
    commonStart (start ++ word) (start ++ other) = start ++ commonStart word other := by
  induction start with
  | nil => rfl
  | cons c rest ih => simp [commonStart, ih]

/-- Lines that stand further in have a margin that is longer by their common beginning. -/
lemma margin?_of_indented (hstart : start.all isMarginal)
    (h : List.Forall₂ (IsIndented start) lines others) :
    margin? lines = (margin? others).map (start ++ ·) := by
  induction h with
  | nil => rfl
  | @cons line other lines others hline hrest ih =>
    rcases hline with ⟨hline, hother⟩ | ⟨hcontent, rfl⟩
    · rw [margin?, margin?, if_pos hline, if_pos hother, ih]
    · have hcontent' : ¬(start ++ other).all isMarginal := by
        simpa [hstart] using hcontent
      have htake : (start ++ other).takeWhile isMarginal = start ++ other.takeWhile isMarginal :=
        List.takeWhile_append_of_pos (List.all_eq_true.mp hstart)
      rw [margin?, margin?, if_neg hcontent', if_neg hcontent, htake, ih]
      cases margin? others with
      | none => rfl
      | some shared => simp [commonStart_append]

/-- A line that stands further in loses the common beginning with its margin. -/
lemma drop_clearBlank_of_isIndented {line other : List Char} (h : IsIndented start line other)
    (shared : List Char) : (clearBlank line).drop (start ++ shared).length =
      (clearBlank other).drop shared.length := by
  rcases h with ⟨hline, hother⟩ | ⟨hcontent, rfl⟩
  · simp [clearBlank, hline, hother]
  · have hcontent' : ¬(start ++ other).all isMarginal := by
      intro hall
      rw [List.all_append, Bool.and_eq_true] at hall
      exact hcontent hall.2
    rw [clearBlank, if_neg hcontent', clearBlank, if_neg hcontent, List.length_append,
      ← List.drop_drop, List.drop_left]

/-- **Lines that stand further in are the same lines without their margins.** -/
lemma dedentLines_of_indented (hstart : start.all isMarginal)
    (h : List.Forall₂ (IsIndented start) lines others) : dedentLines lines = dedentLines others := by
  unfold dedentLines
  rw [margin?_of_indented hstart h]
  cases hmargin : margin? others with
  | some shared =>
    clear hmargin
    induction h with
    | nil => rfl
    | cons hline _ ih =>
      rw [List.map_cons, List.map_cons, ih]
      exact congrArg (· :: _) (drop_clearBlank_of_isIndented hline shared)
  | none =>
    -- no line has content, so all of them are emptied
    induction h with
    | nil => rfl
    | @cons line other lines others hline _ ih =>
      have hblank : other.all isMarginal := by
        by_contra hcontent
        obtain ⟨shared, hshared, -⟩ := exists_margin?_eq List.mem_cons_self hcontent
        rw [hmargin] at hshared
        cases hshared
      rw [margin?, if_pos hblank] at hmargin
      rcases hline with ⟨hline, -⟩ | ⟨hcontent, -⟩
      · rw [List.map_cons, List.map_cons, ih hmargin]
        simp [clearBlank, hline, hblank]
      · exact absurd hblank hcontent

lemma all_isMarginal_of_margin? {shared : List Char} (h : margin? lines = some shared) :
    shared.all isMarginal := by
  induction lines generalizing shared with
  | nil => cases h
  | cons line more ih =>
    rw [margin?] at h
    split at h
    · exact ih h
    · have hown : (line.takeWhile isMarginal).all isMarginal := List.all_takeWhile
      split at h
      · cases h
        exact hown
      · cases h
        refine List.all_eq_true.mpr fun c hc => ?_
        exact List.all_eq_true.mp hown c ((commonStart_begins _ _).1.subset hc)

/-- A margin is made of spaces and tabs. -/
lemma all_isMarginal_margin (lines : List (List Char)) :
    ((margin? lines).getD []).all isMarginal := by
  cases hmargin : margin? lines with
  | none => rfl
  | some shared => exact all_isMarginal_of_margin? hmargin

/-- Lines stand further in than they do without their margin. -/
lemma isIndented_dedentLines (lines : List (List Char)) :
    List.Forall₂ (IsIndented ((margin? lines).getD [])) lines (dedentLines lines) := by
  rw [dedentLines, List.forall₂_map_right_iff, List.forall₂_same]
  intro line hline
  by_cases hblank : line.all isMarginal
  · exact .inl ⟨hblank, by simp [clearBlank, hblank]⟩
  · obtain ⟨shared, hshared, hbegins⟩ := exists_margin?_eq hline hblank
    obtain ⟨rest, rfl⟩ := hbegins.trans (List.takeWhile_prefix _)
    rw [hshared, Option.getD_some, clearBlank, if_neg hblank, List.drop_left]
    refine .inr ⟨fun hrest => hblank ?_, rfl⟩
    rw [List.all_append, all_isMarginal_of_margin? hshared, hrest, Bool.and_self]

lemma dedentLines_dedentLines (lines : List (List Char)) :
    dedentLines (dedentLines lines) = dedentLines lines :=
  (dedentLines_of_indented (all_isMarginal_margin lines) (isIndented_dedentLines lines)).symm

end

/-! ## Texts and their lines -/

lemma dedentLines_ne_nil {lines : List (List Char)} (h : lines ≠ []) : dedentLines lines ≠ [] := by
  simpa [dedentLines] using h

/-- The lines of a text without its margin. -/
lemma splitOn_dedent (text : List Char) :
    splitOn '\n' (dedent text) = dedentLines (splitOn '\n' text) := by
  refine splitOn_joinWith (dedentLines_ne_nil (splitOn_ne_nil _ _)) fun line hline hmem => ?_
  obtain ⟨whole, hwhole, rfl⟩ := List.mem_map.mp hline
  exact not_mem_of_mem_splitOn hwhole (mem_of_mem_clearBlank (List.mem_of_mem_drop hmem))

/-- **A text without its margin has no margin.** -/
theorem dedent_dedent (text : List Char) : dedent (dedent text) = dedent text := by
  rw [dedent, splitOn_dedent, dedentLines_dedentLines, dedent]

/-! ## Indented texts -/

/-- The white space of a text is made of spaces, tabs and newlines. -/
def HasPlainBlanks (text : List Char) : Prop :=
  ∀ c ∈ text, isBlank c = true → c = '\n' ∨ isMarginal c = true

instance decidableHasPlainBlanks (text : List Char) : Decidable (HasPlainBlanks text) :=
  List.decidableBAll (fun c => isBlank c = true → c = '\n' ∨ isMarginal c = true) text

/-- A line with a beginning before it, unless it is blank. -/
def indentLine (start line : List Char) : List Char :=
  if line.all isBlank then line else start ++ line

lemma mem_of_mem_indentLine {start line : List Char} {c : Char} (h : c ∈ indentLine start line) :
    c ∈ start ∨ c ∈ line := by
  unfold indentLine at h
  split at h
  · exact .inr h
  · exact List.mem_append.mp h

lemma isBlank_of_isBoundary {c : Char} (h : isBoundary c = true) : isBlank c = true := by
  simp only [isBoundary, Bool.or_eq_true, beq_iff_eq] at h
  rcases h with ((((((((rfl | rfl) | rfl) | rfl) | rfl) | rfl) | rfl) | rfl) | rfl) | rfl <;> decide

lemma isBlank_of_isMarginal {c : Char} (h : isMarginal c = true) : isBlank c = true := by
  simp only [isMarginal, Bool.or_eq_true, beq_iff_eq] at h
  rcases h with rfl | rfl <;> decide

/-- A text is indented line by line. -/
lemma indent_joinWith (start : List Char) {lines : List (List Char)} (hne : lines ≠ [])
    (h : ∀ line ∈ lines, ∀ c ∈ line, isBoundary c = false) :
    indent start (joinWith ['\n'] lines) = joinWith ['\n'] (lines.map (indentLine start)) := by
  induction lines with
  | nil => exact absurd rfl hne
  | cons line rest ih =>
    obtain ⟨hline, hrest⟩ := List.forall_mem_cons.mp h
    cases rest with
    | nil =>
      have hcut := cutLines_of_forall hline
      cases line with
      | nil => rfl
      | cons c more => simp [indent, joinWith, hcut, indentLine]
    | cons next more =>
      have hblank : (line ++ ['\n']).all isBlank = line.all isBlank := by
        rw [List.all_append]
        exact Bool.and_true _
      have htail := ih (List.cons_ne_nil _ _) hrest
      rw [List.map_cons] at htail
      rw [joinWith_cons_cons, List.singleton_append, List.map_cons, List.map_cons,
        joinWith_cons_cons, ← htail, indent, cutLines_append_newline hline, List.flatMap_cons]
      simp only [indentLine, hblank, indent]
      split <;> simp

/-- The lines of an indented text stand further in. -/
lemma isIndented_indentLine {start line : List Char}
    (h : ∀ c ∈ line, isBlank c = true → isMarginal c = true) :
    IsIndented start (indentLine start line) line := by
  have hall : line.all isBlank = line.all isMarginal := by
    rw [Bool.eq_iff_iff, List.all_eq_true, List.all_eq_true]
    constructor
    · intro hblank c hc
      exact h c hc (hblank c hc)
    · intro hmarginal c hc
      exact isBlank_of_isMarginal (hmarginal c hc)
  rw [IsIndented, indentLine, hall]
  by_cases hblank : line.all isMarginal
  · rw [if_pos hblank]
    exact .inl ⟨hblank, hblank⟩
  · rw [if_neg hblank]
    exact .inr ⟨hblank, rfl⟩

/-- **An indented text is the same text without its margin.** -/
theorem dedent_indent {start text : List Char} (hstart : start.all isMarginal)
    (htext : HasPlainBlanks text) : dedent (indent start text) = dedent text := by
  have hlines {line : List Char} (hline : line ∈ splitOn '\n' text) :
      ∀ c ∈ line, isBlank c = true → isMarginal c = true := by
    intro c hc hblank
    rcases htext c (mem_of_mem_splitOn hline hc) hblank with rfl | hmarginal
    · exact absurd hc (not_mem_of_mem_splitOn hline)
    · exact hmarginal
  have hplain : ∀ line ∈ splitOn '\n' text, ∀ c ∈ line, isBoundary c = false := by
    intro line hline c hc
    by_contra hboundary
    have hboundary : isBoundary c = true := by simpa using hboundary
    have hmarginal := hlines hline c hc (isBlank_of_isBoundary hboundary)
    simp only [isMarginal, Bool.or_eq_true, beq_iff_eq] at hmarginal
    rcases hmarginal with rfl | rfl <;> cases hboundary
  have hindent := indent_joinWith start (splitOn_ne_nil '\n' text) hplain
  rw [joinWith_splitOn] at hindent
  have hsplit : splitOn '\n' (indent start text) =
      (splitOn '\n' text).map (indentLine start) := by
    rw [hindent]
    refine splitOn_joinWith (by simpa using splitOn_ne_nil _ _) fun line hline hmem => ?_
    obtain ⟨whole, hwhole, rfl⟩ := List.mem_map.mp hline
    rcases mem_of_mem_indentLine hmem with hmem | hmem
    · cases List.all_eq_true.mp hstart _ hmem
    · exact not_mem_of_mem_splitOn hwhole hmem
  rw [dedent, hsplit, dedent]
  refine congrArg (joinWith ['\n']) (dedentLines_of_indented hstart ?_)
  rw [List.forall₂_map_left_iff, List.forall₂_same]
  exact fun line hline => isIndented_indentLine (hlines hline)

end Text

/-! ## Usages and definitions -/

open Text

/-- A text is cut open, and its usage found, without its margin. -/
lemma ofText_congr {source other : List Char} (h : dedent source = dedent other) :
    Usage.ofText source = Usage.ofText other ∧
      Definition.ofText source = Definition.ofText other := by
  simp only [Usage.ofText, Definition.ofText, h, and_self]

/-- **How far in a text stands does not matter.**  The text of a usage has this usage itself, and an
indented text has the same usage and the same definition as the text, or is refused for the same
reason at the same line. -/
theorem ofText_own_text_and_indent :
    (∀ source usage, Usage.ofText source = .ok usage → Usage.ofText usage.text = .ok usage) ∧
      ∀ source start : List Char, HasPlainBlanks source → start.all isMarginal →
        Usage.ofText (indent start source) = Usage.ofText source ∧
          Definition.ofText (indent start source) = Definition.ofText source := by
  refine ⟨fun source usage h => ?_, fun source start hsource hstart => ?_⟩
  · have htext : usage.text = dedent source := (Usage.ofText_eq_ok_iff.mp h).1
    rw [htext, (ofText_congr (dedent_dedent source)).1, h]
  · exact ofText_congr (dedent_indent hstart hsource)

/-- Tabs and spaces are mixed in the margin, and one of the blank lines is not empty. -/
theorem ofText_own_text_and_indent_mixed :
    HasPlainBlanks "\tif c:\n\n\t  a[0] = 1\n \n\tb = 2".toList ∧
      indent " \t".toList "\tif c:\n\n\t  a[0] = 1\n \n\tb = 2".toList =
        " \t\tif c:\n\n \t\t  a[0] = 1\n \n \t\tb = 2".toList ∧
      ∃ usage, Usage.ofText "\tif c:\n\n\t  a[0] = 1\n \n\tb = 2".toList = .ok usage ∧
        usage.text = "if c:\n\n  a[0] = 1\n\nb = 2".toList ∧ usage.mutated = ["a"] ∧
        Usage.ofText usage.text = .ok usage ∧
        Usage.ofText " \t\tif c:\n\n \t\t  a[0] = 1\n \n \t\tb = 2".toList = .ok usage := by
  have hblanks : HasPlainBlanks "\tif c:\n\n\t  a[0] = 1\n \n\tb = 2".toList := by decide +kernel
  have hindent : indent " \t".toList "\tif c:\n\n\t  a[0] = 1\n \n\tb = 2".toList =
      " \t\tif c:\n\n \t\t  a[0] = 1\n \n \t\tb = 2".toList := by decide +kernel
  obtain ⟨usage, husage, htext, hmutated⟩ : ∃ usage,
      Usage.ofText "\tif c:\n\n\t  a[0] = 1\n \n\tb = 2".toList = .ok usage ∧
        usage.text = "if c:\n\n  a[0] = 1\n\nb = 2".toList ∧ usage.mutated = ["a"] :=
    exists_ok_of_decide (by decide +kernel)
  have hindented := (ofText_own_text_and_indent.2 _ " \t".toList hblanks (by decide)).1
  rw [hindent, husage] at hindented
  exact ⟨hblanks, hindent, usage, husage, htext, hmutated, ofText_own_text_and_indent.1 _ _ husage,
    hindented⟩

end AdjointSynthesis

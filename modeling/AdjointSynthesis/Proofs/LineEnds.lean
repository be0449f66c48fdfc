import AdjointSynthesis.Proofs.BlockTexts
import AdjointSynthesis.Proofs.Reading.Starts

/-!
# What ends the lines of a definition

A definition is cut open along the lines of its text, and what ends them does not matter to where it
is cut.  It does matter to the margin, which is looked for in lines that still hold their carriage
returns: a blank line that a carriage return stands on is no blank line any more.

* `Definition.ofProgram_relined`: a text is cut open like its lines ended by newlines.
* `Text.withReturns`: a text with a carriage return before every newline.
* `Text.dedent_withReturns`: it has the same margin if blank lines are as wide as that.
* `Definition.ofText_withReturns`: then it has the same definition.
* `Definition.withReturns_at_blank_line`, `Definition.withReturns_behind_backslash`: what is asked of
  the text is needed.
-/

namespace AdjointSynthesis

open Text

/-! ## Cutting open along lines -/

namespace Definition

/-- A program cut open along the lines of its text. -/
def cut (lines : List (List Char)) : List Code.Stmt → Except Failure Definition
  | [.mk span (.function _ name _ (first :: rest) _ _)] => do
    let body ← bodyLines lines span first.span (rest.getLast?.getD first).span
    return ⟨some name, dedent (endLines body)⟩
  | _ => return ⟨none, endLines lines⟩

/-- A text without a margin, cut open. -/
def ofProgram (text : List Char) : Except Failure Definition := do
  cut (splitLines text) (← readProgram .unit text)

lemma ofText_eq (source : List Char) : ofText source = ofProgram (dedent source) := by
  rw [ofText, ofProgram]
  rfl

/-- The functions of a program and the statements in their blocks start on lines up to some one. -/
def StartWithin (last : Nat) (statements : List Code.Stmt) : Prop :=
  ∀ stmt ∈ statements, stmt.form.isFunction = true → stmt.span.start.line ≤ last ∧
    ∀ inner ∈ stmt.form.functionBody, inner.span.start.line ≤ last

lemma startWithin_of_read {text : List Char} {statements : List Code.Stmt}
    (hread : Code.read text = .ok statements) :
    StartWithin (splitLines text).length statements := by
  intro stmt hmem hfunction
  obtain ⟨token, htoken, hword, hstart, -⟩ :=
    Code.isSpannedIn_of_read hread stmt (Code.mem_allIn hmem) hfunction
  refine ⟨hstart ▸ Code.line_le_length_splitLines htoken hword, fun inner hinner => ?_⟩
  obtain ⟨i, -, token, htoken, hword, hstart⟩ := Code.startsFrom_of_read hread stmt hmem inner hinner
  exact hstart ▸ Code.line_le_length_splitLines (Array.mem_of_getElem? htoken) hword

/-- A place that is not behind the last line is known by how it is seen. -/
lemma place_eq_of_upTo {last : Nat} {place other : Code.Place}
    (h : (Code.View.upTo last).place place = (Code.View.upTo last).place other)
    (hplace : place.line ≤ last) (hother : other.line ≤ last) : place = other := by
  obtain ⟨hline, hcolumn⟩ := Code.Place.mk.inj h
  rw [Nat.min_eq_left hplace, Nat.min_eq_left hother] at hline
  obtain ⟨line, column⟩ := place
  exact Code.Place.mk.injEq .. ▸ ⟨hline, hcolumn⟩

lemma spans_seen {v : Code.View} {stmt other : Code.Stmt} (h : stmt.seen v = other.seen v) :
    v.span stmt.span = v.span other.span := by
  obtain ⟨span, form⟩ := stmt
  obtain ⟨span', form'⟩ := other
  exact (Code.Stmt.mk.inj h).1

/-- Where a body stops counts up to the last line only. -/
lemma bodyLines_congr {lines : List (List Char)} {span span' first first' last last' : Code.Span}
    (hspan : span.start = span'.start) (hfirst : first.start = first'.start)
    (hlast : min last.stop.line lines.length = min last'.stop.line lines.length) :
    bodyLines lines span first last = bodyLines lines span' first' last' := by
  have htake : lines.take last.stop.line = lines.take last'.stop.line := by
    rw [List.take_eq_take_min, hlast, ← List.take_eq_take_min]
  rw [bodyLines, bodyLines, hspan, hfirst, htake]

lemma exists_function_of_seen {v : Code.View} {statements : List Code.Stmt} {span : Code.Span}
    {isAsync : Bool} {name : String} {parameters : Code.Parameters} {first : Code.Stmt}
    {rest : List Code.Stmt} {decorators : List Code.Expr} {returns : Option Code.Expr}
    (h : [Code.Stmt.mk span (.function isAsync name parameters (first :: rest) decorators
      returns)].map (Code.Stmt.seen v) = statements.map (Code.Stmt.seen v)) :
    ∃ span' parameters' first' rest' decorators' returns', statements =
        [.mk span' (.function isAsync name parameters' (first' :: rest') decorators' returns')] ∧
      v.span span = v.span span' ∧ first.seen v = first'.seen v ∧
      rest.map (Code.Stmt.seen v) = rest'.map (Code.Stmt.seen v) := by
  obtain ⟨⟨span', form⟩, rfl, hseen⟩ := List.map_eq_singleton_iff.mp h.symm
  obtain ⟨hspan, hform⟩ := Code.Stmt.mk.inj hseen
  cases form with
  | function isAsync' name' parameters' body' decorators' returns' =>
    obtain ⟨rfl, rfl, -, hbody, -, -⟩ := Code.StmtForm.function.inj hform
    rw [Code.seenInBody_eq_map, Code.seenInBody_eq_map] at hbody
    obtain ⟨first', rest', rfl, hfirst, hrest⟩ := List.map_eq_cons_iff.mp hbody
    exact ⟨_, _, first', rest', _, _, rfl, hspan.symm, hfirst.symm, hrest.symm⟩
  | _ => cases hform

/-- **Programs that look alike up to the last line are cut open alike.** -/
theorem cut_congr {lines : List (List Char)} {statements others : List Code.Stmt}
    (h : statements.map (Code.Stmt.seen (.upTo lines.length)) =
      others.map (Code.Stmt.seen (.upTo lines.length)))
    (hstatements : StartWithin lines.length statements)
    (hothers : StartWithin lines.length others) : cut lines statements = cut lines others := by
  unfold cut
  split
  · next span isAsync name parameters first rest decorators returns =>
    obtain ⟨span', parameters', first', rest', decorators', returns', rfl, hspan, hfirst, hrest⟩ :=
      exists_function_of_seen h
    obtain ⟨hline, hbody⟩ := hstatements _ (List.mem_singleton_self _) rfl
    obtain ⟨hline', hbody'⟩ := hothers _ (List.mem_singleton_self _) rfl
    have hlast : (rest.getLast?.getD first).seen (.upTo lines.length) =
        (rest'.getLast?.getD first').seen (.upTo lines.length) := by
      have hgetD (stmt : Code.Stmt) (more : List Code.Stmt) :
          (more.getLast?.getD stmt).seen (.upTo lines.length) =
            (more.map (Code.Stmt.seen (.upTo lines.length))).getLast?.getD
              (stmt.seen (.upTo lines.length)) := by
        rw [List.getLast?_map, Option.getD_map]
      rw [hgetD, hgetD, hrest, hfirst]
    have hbodyLines : bodyLines lines span first.span (rest.getLast?.getD first).span =
        bodyLines lines span' first'.span (rest'.getLast?.getD first').span := by
      refine bodyLines_congr ?_ ?_ ?_
      · exact place_eq_of_upTo (congrArg Code.Span.start hspan) hline hline'
      · exact place_eq_of_upTo (congrArg Code.Span.start (spans_seen hfirst))
          (hbody _ List.mem_cons_self) (hbody' _ List.mem_cons_self)
      · exact congrArg (fun span => span.stop.line) (spans_seen hlast)
    rw [hbodyLines]
  · next hnot =>
    split
    · next span isAsync name parameters first rest decorators returns =>
      obtain ⟨span', parameters', first', rest', decorators', returns', rfl, -⟩ :=
        exists_function_of_seen h.symm
      exact absurd rfl (hnot _ _ _ _ _ _ _ _)
    · rfl

/-- A text is cut open like one with the same lines that is cut into tokens like it. -/
lemma ofProgram_of_isLike {text other : List Char} {definition : Definition}
    (hlines : splitLines other = splitLines text) (hnull : '\x00' ∉ text → '\x00' ∉ other)
    (hlike : (Code.TokenSequence.ofText text).ending = .finished →
      (Code.TokenSequence.ofText text).IsLike (.upTo (splitLines text).length) (.ofText other))
    (h : ofProgram text = .ok definition) : ofProgram other = .ok definition := by
  obtain ⟨statements, hprogram, hcut⟩ := bind_eq_ok_iff.mp h
  obtain ⟨hnull', hread⟩ := readProgram_eq_ok_iff.mp hprogram
  obtain ⟨others, hother, hseen⟩ :=
    Code.read_of_isLike (hlike (Code.finished_of_read hread)) hread
  have hwithin := startWithin_of_read hother
  rw [hlines] at hwithin
  refine bind_eq_ok_iff.mpr ⟨others, readProgram_eq_ok_iff.mpr ⟨hnull hnull', hother⟩, ?_⟩
  rw [hlines, ← cut_congr hseen (startWithin_of_read hread) hwithin]
  exact hcut

end Definition

namespace Text

variable {text : List Char}

/-- Ending the lines by newlines keeps them. -/
lemma splitLines_relined (text : List Char) : splitLines (relined text) = splitLines text :=
  splitLines_endLines fun _ hline => isBoundary_eq_false_of_mem_splitLines hline

lemma mem_unifyNewlines {c : Char} (hnewline : c ≠ '\n') (hreturn : c ≠ '\r') :
    c ∈ unifyNewlines text ↔ c ∈ text := by
  fun_induction unifyNewlines text with
  | case1 => rfl
  | case2 rest ih => simp [ih, hnewline, hreturn]
  | case3 d rest hnext ih =>
    split
    · next hd => simp [ih, hnewline, hreturn, hd]
    · simp [ih]

lemma mem_relined (h : HasPlainBoundaries text) {c : Char} (hnewline : c ≠ '\n')
    (hreturn : c ≠ '\r') : c ∈ relined text ↔ c ∈ text := by
  rw [relined_eq h, closeLine]
  split
  · exact mem_unifyNewlines hnewline hreturn
  · rw [List.mem_append, List.mem_singleton, or_iff_left hnewline]
    exact mem_unifyNewlines hnewline hreturn

end Text

/-- **A text is cut open like its lines ended by newlines**, if only newlines and carriage returns
end them and no backslash stands before the last of them. -/
theorem Definition.ofProgram_relined {text : List Char} (h : HasPlainBoundaries text)
    (hcontinued : ¬['\\', '\r', '\n'] <:+ text) (definition : Definition) :
    Definition.ofProgram (relined text) = .ok definition ↔
      Definition.ofProgram text = .ok definition := by
  obtain ⟨hfinished, hlike⟩ := Code.isLike_relined h hcontinued
  have hlines := splitLines_relined text
  have hnull : '\x00' ∈ relined text ↔ '\x00' ∈ text := mem_relined h (by decide) (by decide)
  constructor
  · refine Definition.ofProgram_of_isLike hlines.symm (mt hnull.mpr) fun hended => ?_
    rw [hlines]
    exact (hlike (hfinished.mpr hended)).symm
  · exact Definition.ofProgram_of_isLike hlines (mt hnull.mp) hlike

/-! ## Carriage returns before newlines -/

namespace Text

/-- A text with a carriage return before every newline. -/
def withReturns (text : List Char) : List Char :=
  text.flatMap fun c => if c = '\n' then ['\r', '\n'] else [c]

/-- Lines with a carriage return on each but the last. -/
def returned : List (List Char) → List (List Char)
  | [] => []
  | [last] => [last]
  | line :: rest => (line ++ ['\r']) :: returned rest

section
variable {text : List Char} {lines : List (List Char)}

lemma returned_cons {line : List Char} (h : lines ≠ []) :
    returned (line :: lines) = (line ++ ['\r']) :: returned lines := by
  cases lines with
  | nil => exact absurd rfl h
  | cons next rest => rfl

lemma returned_ne_nil (h : lines ≠ []) : returned lines ≠ [] := by
  rcases lines with _ | ⟨line, _ | ⟨next, rest⟩⟩ <;> simp_all [returned]

lemma withReturns_of_not_mem {line : List Char} (h : '\n' ∉ line) : withReturns line = line := by
  induction line with
  | nil => rfl
  | cons c rest ih =>
    obtain ⟨hc, hrest⟩ := not_or.mp (List.mem_cons.not.mp h)
    have := ih hrest
    simp_all [withReturns, Ne.symm hc]

lemma withReturns_joinWith (h : ∀ line ∈ lines, '\n' ∉ line) :
    withReturns (joinWith ['\n'] lines) = joinWith ['\n'] (returned lines) := by
  induction lines with
  | nil => rfl
  | cons line rest ih =>
    obtain ⟨hline, hrest⟩ := List.forall_mem_cons.mp h
    by_cases hne : rest = []
    · subst hne
      exact withReturns_of_not_mem hline
    · have hown := withReturns_of_not_mem hline
      have hmore := ih hrest
      rw [joinWith_cons hne, returned_cons hne, joinWith_cons (returned_ne_nil hne), ← hmore]
      simp only [withReturns, List.flatMap_append, List.flatMap_cons] at hown ⊢
      rw [hown]
      simp

/-- The lines of a text with carriage returns. -/
lemma splitOn_withReturns (text : List Char) :
    splitOn '\n' (withReturns text) = returned (splitOn '\n' text) := by
  have hplain : ∀ line ∈ splitOn '\n' text, '\n' ∉ line := fun _ => not_mem_of_mem_splitOn
  have hjoin := withReturns_joinWith hplain
  rw [joinWith_splitOn] at hjoin
  rw [hjoin]
  refine splitOn_joinWith (returned_ne_nil (splitOn_ne_nil _ _)) ?_
  generalize splitOn '\n' text = lines at hplain
  induction lines with
  | nil => exact fun _ hline => by cases hline
  | cons line rest ih =>
    obtain ⟨hline, hrest⟩ := List.forall_mem_cons.mp hplain
    by_cases hne : rest = []
    · subst hne
      exact hplain
    · rw [returned_cons hne]
      exact List.forall_mem_cons.mpr ⟨by simpa using hline, ih hrest⟩

/-! ### Margins -/

/-- Blank lines that end are as wide as the margin. -/
def HasFlushBlanks (lines : List (List Char)) : Prop :=
  ∀ line ∈ lines.dropLast, line.all isMarginal → line = (margin? lines).getD []

instance decidableHasFlushBlanks (lines : List (List Char)) : Decidable (HasFlushBlanks lines) :=
  List.decidableBAll (fun line : List Char => line.all isMarginal → line = (margin? lines).getD [])
    lines.dropLast

lemma not_all_isMarginal_return (line : List Char) : ¬(line ++ ['\r']).all isMarginal := by
  rw [List.all_append, Bool.and_eq_true]
  rintro ⟨-, hreturn⟩
  cases hreturn

/-- Lines with carriage returns stand further in when the lines do and their blank lines are the
common beginning. -/
lemma isIndented_returned {start : List Char} {others : List (List Char)}
    (h : List.Forall₂ (IsIndented start) lines others)
    (hblank : ∀ line ∈ lines.dropLast, line.all isMarginal → line = start)
    (hempty : ∀ other ∈ others, other.all isMarginal → other = []) :
    List.Forall₂ (IsIndented start) (returned lines) (returned others) := by
  induction h with
  | nil => exact .nil
  | @cons line other lines others hline hrest ih =>
    by_cases hne : lines = []
    · subst hne
      cases hrest
      exact .cons hline .nil
    have hne' : others ≠ [] := by
      rintro rfl
      cases hrest
      exact hne rfl
    rw [List.dropLast_cons_of_ne_nil hne] at hblank
    rw [returned_cons hne, returned_cons hne']
    refine .cons (.inr ⟨not_all_isMarginal_return other, ?_⟩)
      (ih (fun line h => hblank line (List.mem_cons_of_mem _ h))
        (fun other h => hempty other (List.mem_cons_of_mem _ h)))
    rcases hline with ⟨hline, hother⟩ | ⟨-, rfl⟩
    · rw [hblank line List.mem_cons_self hline, hempty other List.mem_cons_self hother,
        List.nil_append]
    · exact List.append_assoc _ _ _

lemma commonStart_nil (word : List Char) : commonStart word [] = [] := by
  cases word <;> rfl

/-- A carriage return on an empty line makes the margin empty, and does nothing to it on a line with
content. -/
lemma margin?_returned (hempty : ∀ line ∈ lines, line.all isMarginal → line = []) :
    margin? (returned lines) = some [] ∨ margin? (returned lines) = margin? lines := by
  induction lines with
  | nil => exact .inr rfl
  | cons line rest ih =>
    by_cases hne : rest = []
    · subst hne
      exact .inr rfl
    have hrest := ih fun line h => hempty line (List.mem_cons_of_mem _ h)
    rw [returned_cons hne, margin?, if_neg (not_all_isMarginal_return line), margin?]
    by_cases hline : line.all isMarginal
    · rw [hempty line List.mem_cons_self hline]
      left
      cases margin? (returned rest) <;> rfl
    · rw [if_neg hline, Code.takeWhile_concat rfl]
      rcases hrest with hrest | hrest
      · rw [hrest]
        exact .inl (congrArg some (commonStart_nil _))
      · rw [hrest]
        exact .inr rfl

/-- Lines with carriage returns have content, but for the last. -/
lemma eq_nil_of_mem_returned (hempty : ∀ line ∈ lines, line.all isMarginal → line = []) :
    ∀ line ∈ returned lines, line.all isMarginal → line = [] := by
  induction lines with
  | nil => exact hempty
  | cons line rest ih =>
    by_cases hne : rest = []
    · subst hne
      exact hempty
    · rw [returned_cons hne]
      refine List.forall_mem_cons.mpr ⟨fun hall => absurd hall (not_all_isMarginal_return line), ?_⟩
      exact ih fun line h => hempty line (List.mem_cons_of_mem _ h)

/-- Lines without a margin whose blank lines are empty stay as they are. -/
lemma dedentLines_eq_self (hmargin : (margin? lines).getD [] = [])
    (hempty : ∀ line ∈ lines, line.all isMarginal → line = []) : dedentLines lines = lines := by
  rw [dedentLines, hmargin]
  refine (List.map_congr_left fun line hline => ?_).trans (List.map_id _)
  rw [clearBlank]
  split
  · next hblank => exact (hempty line hline hblank).symm
  · rfl

lemma eq_nil_of_mem_dedentLines {line : List Char} (hline : line ∈ dedentLines lines)
    (hblank : line.all isMarginal) : line = [] := by
  obtain ⟨whole, hwhole, rfl⟩ := List.mem_map.mp hline
  have hindented := List.forall₂_map_right_iff.mp (isIndented_dedentLines lines)
  rcases List.forall₂_same.mp hindented whole hwhole with ⟨hline, -⟩ | ⟨hcontent, -⟩
  · simp [clearBlank, hline]
  · exact absurd hblank hcontent

lemma margin?_dedentLines (lines : List (List Char)) :
    (margin? (dedentLines lines)).getD [] = [] := by
  have hmargin := margin?_of_indented (all_isMarginal_margin lines) (isIndented_dedentLines lines)
  cases hrest : margin? (dedentLines lines) with
  | none => rfl
  | some rest =>
    -- the margin of the lines would be longer than itself
    have hlonger : (margin? lines).getD [] = (margin? lines).getD [] ++ rest := by
      conv_lhs => rw [hmargin, hrest]
      rfl
    exact List.self_eq_append_right.mp hlonger

/-- Without their margin, lines with carriage returns are the lines without theirs, with carriage
returns. -/
lemma dedentLines_returned (h : HasFlushBlanks lines) :
    dedentLines (returned lines) = returned (dedentLines lines) := by
  have hempty : ∀ line ∈ dedentLines lines, line.all isMarginal → line = [] :=
    fun line => eq_nil_of_mem_dedentLines
  rw [dedentLines_of_indented (all_isMarginal_margin lines)
    (isIndented_returned (isIndented_dedentLines lines) h hempty)]
  refine dedentLines_eq_self ?_ (eq_nil_of_mem_returned hempty)
  rcases margin?_returned hempty with hmargin | hmargin
  · rw [hmargin]
    rfl
  · rw [hmargin, margin?_dedentLines]

/-- **Carriage returns stay where they are when the margin is taken off.** -/
theorem dedent_withReturns (h : HasFlushBlanks (splitOn '\n' text)) :
    dedent (withReturns text) = withReturns (dedent text) := by
  have hplain : ∀ line ∈ dedentLines (splitOn '\n' text), '\n' ∉ line := by
    rw [← splitOn_dedent]
    exact fun _ => not_mem_of_mem_splitOn
  rw [dedent, splitOn_withReturns, dedentLines_returned h, ← withReturns_joinWith hplain, dedent]

/-! ### Lines -/

lemma unifyNewlines_withReturns (h : '\r' ∉ text) : unifyNewlines (withReturns text) = text := by
  induction text with
  | nil => rfl
  | cons c rest ih =>
    obtain ⟨hc, hrest⟩ := not_or.mp (List.mem_cons.not.mp h)
    have := ih hrest
    simp only [withReturns, List.flatMap_cons] at this ⊢
    split
    · next hnewline =>
      subst hnewline
      exact congrArg ('\n' :: ·) this
    · rw [List.singleton_append, Code.unifyNewlines_cons, if_neg (Ne.symm hc), this]
      exact fun more hreturn => absurd hreturn.symm hc

lemma HasOnlyNewlines.withReturns (h : HasOnlyNewlines text) :
    HasPlainBoundaries (withReturns text) := by
  intro c hc hboundary
  obtain ⟨d, hd, hc⟩ := List.mem_flatMap.mp hc
  split at hc
  · simpa [or_comm] using hc
  · obtain rfl := List.mem_singleton.mp hc
    exact .inl (h c hd hboundary)

/-- The lines of a text, ended by newlines, do not show its carriage returns. -/
lemma relined_withReturns (h : HasOnlyNewlines text) : relined (withReturns text) = relined text := by
  rw [relined_eq h.withReturns, unifyNewlines_withReturns h.return_not_mem, relined_eq_closeLine h]

lemma getLast?_withReturns (text : List Char) : (withReturns text).getLast? = text.getLast? := by
  rcases List.eq_nil_or_concat' text with rfl | ⟨before, c, rfl⟩
  · rfl
  · rw [withReturns, List.flatMap_append, List.flatMap_singleton]
    split
    · next hc =>
      subst hc
      simp
    · simp

/-- What stands before the newline at the end stands before its carriage return. -/
lemma suffix_of_suffix_withReturns {c : Char} (h : [c, '\r', '\n'] <:+ withReturns text) :
    [c, '\n'] <:+ text := by
  obtain ⟨before, hbefore⟩ := h
  have hlast : text.getLast? = some '\n' := by
    rw [← getLast?_withReturns, ← hbefore]
    simp
  obtain ⟨text, rfl⟩ := List.getLast?_eq_some_iff.mp hlast
  have hopen : withReturns text = before ++ [c] := by
    have hsplit : withReturns text ++ ['\r', '\n'] = (before ++ [c]) ++ ['\r', '\n'] := by
      simpa [withReturns] using hbefore.symm
    exact List.append_cancel_right hsplit
  have hlast : text.getLast? = some c := by
    rw [← getLast?_withReturns, hopen, List.getLast?_concat]
  obtain ⟨text, rfl⟩ := List.getLast?_eq_some_iff.mp hlast
  exact ⟨text, by simp⟩

end

end Text

namespace Definition

/-- **What ends the lines of a text does not matter to its definition.**  A text whose lines end at
newlines has the same definition with a carriage return before every newline, if its blank lines are
as wide as its margin and no backslash stands before a newline at its end. -/
theorem ofText_withReturns {source : List Char} (hsource : HasOnlyNewlines source)
    (hblanks : HasFlushBlanks (splitOn '\n' source)) (hcontinued : ¬['\\', '\n'] <:+ dedent source)
    (definition : Definition) :
    ofText (withReturns source) = .ok definition ↔ ofText source = .ok definition := by
  have hplain := hsource.dedent
  rw [ofText_eq, ofText_eq, dedent_withReturns hblanks]
  rw [← ofProgram_relined hplain.withReturns (mt suffix_of_suffix_withReturns hcontinued),
    relined_withReturns hplain, ofProgram_relined hplain.hasPlainBoundaries]
  intro hreturn
  exact hplain.return_not_mem (hreturn.subset (by simp))

example : HasFlushBlanks (splitOn '\n' "  a[0] = 1\n  \n    b = 2\n".toList) := by decide

/-- A carriage return takes the margin away when it stands on an empty line. -/
theorem withReturns_at_blank_line :
    ofText "    a[0] = 1\n\n    b = 2\n".toList = .ok ⟨none, "a[0] = 1\n\nb = 2\n".toList⟩ ∧
      (ofText (withReturns "    a[0] = 1\n\n    b = 2\n".toList)).toOption.isNone := by
  decide +kernel

/-- A carriage return stands between a backslash and the newline at the end of a text. -/
theorem withReturns_behind_backslash :
    (ofText "b = 1\\\n".toList).toOption.isNone ∧
      ofText (withReturns "b = 1\\\n".toList) = .ok ⟨none, "b = 1\\\n".toList⟩ := by
  decide +kernel

end Definition

end AdjointSynthesis

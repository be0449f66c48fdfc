import AdjointSynthesis.Proofs.Bodies
import AdjointSynthesis.Proofs.Failures

/-!
# What a text is refused for

A text that is cut open, or whose usage is asked for, should be refused for one reason only, that it
is no program.  Two others come in, and both lie in the characters of the text: the null character,
which is looked for before the text is read, and a carriage return that ends a line by itself, which
the grammar counts and the search for writes does not.

* `Text.mem_dedent_of_mem`: taking off the margin keeps every character that no margin holds.
* `Definition.ofText_outcomes`, `Usage.ofText_outcomes`: the ways in which a text is taken or
  refused.
-/

namespace AdjointSynthesis

/-! ## Characters that no margin holds -/

namespace Text

lemma commonStart_begins (word other : List Char) :
    commonStart word other <+: word ∧ commonStart word other <+: other := by
  induction word generalizing other with
  | nil => exact ⟨List.nil_prefix, List.nil_prefix⟩
  | cons c rest ih =>
    cases other with
    | nil => exact ⟨List.nil_prefix, List.nil_prefix⟩
    | cons d others =>
      rw [commonStart]
      split
      · next h =>
        subst h
        obtain ⟨hrest, hothers⟩ := ih others
        exact ⟨(List.prefix_cons_inj c).mpr hrest, (List.prefix_cons_inj c).mpr hothers⟩
      · exact ⟨List.nil_prefix, List.nil_prefix⟩

/-- Every line with content begins with the margin. -/
lemma exists_margin?_eq {lines : List (List Char)} {line : List Char} (hline : line ∈ lines)
    (hcontent : ¬line.all isMarginal) :
    ∃ shared, margin? lines = some shared ∧ shared <+: line.takeWhile isMarginal := by
  induction lines with
  | nil => cases hline
  | cons first more ih =>
    rw [margin?]
    by_cases hfirst : first.all isMarginal
    · rw [if_pos hfirst]
      rcases List.mem_cons.mp hline with rfl | hline
      · exact absurd hfirst hcontent
      · exact ih hline
    · rw [if_neg hfirst]
      rcases List.mem_cons.mp hline with rfl | hline
      · cases margin? more with
        | none => exact ⟨_, rfl, List.prefix_rfl⟩
        | some shared => exact ⟨_, rfl, (commonStart_begins _ _).1⟩
      · obtain ⟨shared, hshared, hbegins⟩ := ih hline
        rw [hshared]
        exact ⟨_, rfl, (commonStart_begins _ _).2.trans hbegins⟩

/-- **Taking off the margin keeps every character that no margin holds.** -/
lemma mem_dedent_of_mem {source : List Char} {c : Char} (h : c ∈ source) (hnewline : c ≠ '\n')
    (hc : isMarginal c = false) : c ∈ dedent source := by
  rw [← joinWith_splitOn '\n' source] at h
  rcases mem_of_mem_joinWith h with hmem | ⟨line, hline, hmem⟩
  · exact absurd (List.mem_singleton.mp hmem) hnewline
  have hcontent : ¬line.all isMarginal := by
    intro hall
    rw [List.all_eq_true.mp hall c hmem] at hc
    cases hc
  obtain ⟨shared, hshared, hbegins⟩ := exists_margin?_eq hline hcontent
  refine mem_joinWith_of_mem (List.mem_map_of_mem hline) ?_
  rw [hshared, clearBlank, if_neg hcontent, Option.getD_some]
  -- what is taken off is marginal
  obtain ⟨own, rfl⟩ := hbegins.trans (List.takeWhile_prefix _)
  rw [List.drop_left]
  refine (List.mem_append.mp hmem).resolve_left fun htaken => ?_
  rw [List.mem_takeWhile_imp (hbegins.subset htaken)] at hc
  cases hc

end Text

open Text

/-! ## All outcomes -/

/-- A text without its margin is read, or it is no program, or the text holds the null character. -/
lemma readProgram_dedent_outcomes (part : Part) (source : List Char) :
    (∃ statements, readProgram part (dedent source) = .ok statements ∧ '\x00' ∉ source) ∨
      (∃ fault, readProgram part (dedent source) = .error (.broken part fault) ∧
        '\x00' ∉ source) ∨
      readProgram part (dedent source) = .error .nullCharacter ∧ '\x00' ∈ source := by
  have hnull : '\x00' ∈ dedent source ↔ '\x00' ∈ source := by
    constructor
    · intro hmem
      exact (mem_of_mem_dedent hmem).resolve_left (by decide)
    · intro hmem
      exact mem_dedent_of_mem hmem (by decide) (by decide)
  rw [readProgram]
  by_cases hmem : '\x00' ∈ source
  · rw [if_pos (List.contains_iff_mem.mpr (hnull.mpr hmem))]
    exact .inr (.inr ⟨rfl, hmem⟩)
  · rw [if_neg (mt List.contains_iff_mem.mp (mt hnull.mp hmem))]
    cases hread : Code.read (dedent source) with
    | ok statements => exact .inl ⟨statements, rfl, hmem⟩
    | error fault => exact .inr (.inl ⟨fault, rfl, hmem⟩)

/-- **The ways in which a text is cut open or refused.**  It is refused for being no program, unless
it holds the null character. -/
theorem Definition.ofText_outcomes (source : List Char) :
    '\x00' ∉ source ∧ ((∃ definition, Definition.ofText source = .ok definition) ∨
        ∃ fault, Definition.ofText source = .error (.broken .unit fault)) ∨
      '\x00' ∈ source ∧ Definition.ofText source = .error .nullCharacter := by
  rcases readProgram_dedent_outcomes .unit source with
    ⟨statements, hread, hnull⟩ | ⟨fault, hread, hnull⟩ | ⟨hread, hnull⟩
  · refine .inl ⟨hnull, .inl ?_⟩
    cases hresult : Definition.ofText source with
    | ok definition => exact ⟨definition, rfl⟩
    | error failure =>
      rw [Definition.ofText_eq_error_iff, hread] at hresult
      cases hresult
  · exact .inl ⟨hnull, .inr ⟨fault, Definition.ofText_eq_error_iff.mpr hread⟩⟩
  · exact .inr ⟨hnull, Definition.ofText_eq_error_iff.mpr hread⟩

/-- **The ways in which the usage of a text is found or refused.**  It is refused for the text being
no program, unless the text holds the null character, or a program has a carriage return that stands
before no newline. -/
theorem Usage.ofText_outcomes (source : List Char) :
    '\x00' ∉ source ∧ ((∃ usage, Usage.ofText source = .ok usage) ∨
        (∃ fault, Usage.ofText source = .error (.broken .block fault)) ∨
        ¬PairsReturns source ∧ Usage.ofText source = .error .missingLine) ∨
      '\x00' ∈ source ∧ Usage.ofText source = .error .nullCharacter := by
  have hrefused {failure : Failure} (hread : readProgram .block (dedent source) = .error failure) :
      Usage.ofText source = .error failure := bind_eq_error_iff.mpr (.inl hread)
  rcases readProgram_dedent_outcomes .block source with
    ⟨statements, hread, hnull⟩ | ⟨fault, hread, hnull⟩ | ⟨hread, hnull⟩
  · refine .inl ⟨hnull, ?_⟩
    cases hresult : Usage.ofText source with
    | ok usage => exact .inl ⟨usage, rfl⟩
    | error failure =>
      rcases Usage.ofText_eq_error hresult with hbroken | rfl
      · cases hread.symm.trans hbroken
      · refine .inr (.inr ⟨fun hreturns => ?_, rfl⟩)
        cases hread.symm.trans ((Usage.ofText_eq_error_iff hreturns).mp hresult)
  · exact .inl ⟨hnull, .inr (.inl ⟨fault, hrefused hread⟩)⟩
  · exact .inr ⟨hnull, hrefused hread⟩

end AdjointSynthesis

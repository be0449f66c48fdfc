import AdjointSynthesis.Text.Identifier
import AdjointSynthesis.Text.Lines
import Mathlib.Data.List.Basic

/-!
# Splitting and joining lines

What the notions of a line have to do with appending: a text ends in the middle of what is split, and
a line is put in front of lines that are joined.

* `splitOn_append_cons_self`: the parts on both sides of a separator.
* `splitOn_joinWith`: splitting undoes joining, as `joinWith_splitOn` says the converse.
* `cutLines_endLines`, `splitLines_endLines`: splitting at line boundaries undoes ending lines by
  newlines.
-/

namespace AdjointSynthesis.Text

/-! ## Parts of a text -/

section
variable {separator c : Char} {text part : List Char}

/-- No part reaches across a separator. -/
lemma splitOn_append_cons_self (separator : Char) (text rest : List Char) :
    splitOn separator (text ++ separator :: rest) =
      splitOn separator text ++ splitOn separator rest := by
  induction text with
  | nil => simp [splitOn]
  | cons c more ih =>
    rw [List.cons_append, splitOn, splitOn, ih]
    split
    · rfl
    · cases hmore : splitOn separator more with
      | nil => exact absurd hmore (splitOn_ne_nil _ _)
      | cons part others => rfl

lemma splitOn_of_not_mem (h : separator ∉ part) : splitOn separator part = [part] := by
  induction part with
  | nil => rfl
  | cons c rest ih =>
    obtain ⟨hc, hrest⟩ := List.mem_cons.not.mp h |> not_or.mp
    rw [splitOn, if_neg (Ne.symm hc), ih hrest]

lemma splitOn_append_cons (h : separator ∉ part) (rest : List Char) :
    splitOn separator (part ++ separator :: rest) = part :: splitOn separator rest := by
  rw [splitOn_append_cons_self, splitOn_of_not_mem h, List.singleton_append]

lemma length_splitOn (separator : Char) (text : List Char) :
    (splitOn separator text).length = text.count separator + 1 := by
  induction text with
  | nil => rfl
  | cons c more ih =>
    rw [splitOn]
    by_cases hc : c = separator
    · rw [if_pos hc, List.length_cons, ih, hc, List.count_cons_self]
    · rw [if_neg hc, List.count_cons_of_ne hc, ← ih]
      cases hmore : splitOn separator more with
      | nil => exact absurd hmore (splitOn_ne_nil _ _)
      | cons part others => rfl

lemma head?_splitOn (separator : Char) (text : List Char) :
    (splitOn separator text)[0]? = some (text.takeWhile (· != separator)) := by
  induction text with
  | nil => rfl
  | cons c more ih =>
    rw [splitOn]
    by_cases hc : c = separator
    · rw [if_pos hc]
      simp [hc]
    · rw [if_neg hc]
      cases hmore : splitOn separator more with
      | nil => exact absurd hmore (splitOn_ne_nil _ _)
      | cons part others =>
        rw [hmore] at ih
        simpa [hc] using ih

lemma not_mem_of_mem_splitOn (h : part ∈ splitOn separator text) : separator ∉ part := by
  induction text generalizing part with
  | nil => simp_all [splitOn]
  | cons c rest ih =>
    rw [splitOn] at h
    split at h
    · rcases List.mem_cons.mp h with rfl | h
      · simp
      · exact ih h
    · next hc =>
      split at h
      · next hrest => exact absurd hrest (splitOn_ne_nil _ _)
      · next first more hrest =>
        rw [hrest] at ih
        rcases List.mem_cons.mp h with rfl | h
        · have := ih List.mem_cons_self
          simp [this, Ne.symm hc]
        · exact ih (List.mem_cons_of_mem _ h)

end

/-! ## Parts that are joined -/

section
variable {separator part : List Char} {parts lines : List (List Char)} {c : Char}

lemma joinWith_cons_cons (separator first next : List Char) (more : List (List Char)) :
    joinWith separator (first :: next :: more) =
      first ++ (separator ++ joinWith separator (next :: more)) := by
  rw [joinWith, List.append_assoc]
  exact List.cons_ne_nil _ _

lemma joinWith_cons {line : List Char} (h : lines ≠ []) :
    joinWith ['\n'] (line :: lines) = line ++ '\n' :: joinWith ['\n'] lines := by
  obtain ⟨next, more, rfl⟩ := List.exists_cons_of_ne_nil h
  exact joinWith_cons_cons _ _ _ _

/-- An empty last line is a newline at the end. -/
lemma joinWith_concat_nil (h : lines ≠ []) :
    joinWith ['\n'] (lines ++ [[]]) = joinWith ['\n'] lines ++ ['\n'] := by
  induction lines with
  | nil => exact absurd rfl h
  | cons line rest ih =>
    by_cases hrest : rest = []
    · simp [hrest, joinWith]
    · rw [List.cons_append, joinWith_cons (by simp), joinWith_cons hrest, ih hrest]
      simp

lemma mem_joinWith_of_mem (hpart : part ∈ parts) (hc : c ∈ part) : c ∈ joinWith separator parts := by
  fun_induction joinWith separator parts with
  | case1 => cases hpart
  | case2 => exact List.mem_singleton.mp hpart ▸ hc
  | case3 first more _ ih =>
    rcases List.mem_cons.mp hpart with rfl | hpart
    · exact List.mem_append_left _ (List.mem_append_left _ hc)
    · exact List.mem_append_right _ (ih hpart)

lemma mem_of_mem_joinWith (hc : c ∈ joinWith separator parts) :
    c ∈ separator ∨ ∃ part ∈ parts, c ∈ part := by
  fun_induction joinWith separator parts with
  | case1 => cases hc
  | case2 part => exact .inr ⟨part, List.mem_singleton.mpr rfl, hc⟩
  | case3 part more _ ih =>
    rcases List.mem_append.mp hc with hc | hc
    · rcases List.mem_append.mp hc with hc | hc
      · exact .inr ⟨part, List.mem_cons_self, hc⟩
      · exact .inl hc
    · refine (ih hc).imp_right ?_
      rintro ⟨other, hother, hc⟩
      exact ⟨other, List.mem_cons_of_mem _ hother, hc⟩

end

lemma mem_of_mem_splitOn {separator c : Char} {text part : List Char}
    (hpart : part ∈ splitOn separator text) (hc : c ∈ part) : c ∈ text :=
  joinWith_splitOn separator text ▸ mem_joinWith_of_mem hpart hc

/-- Splitting undoes joining. -/
lemma splitOn_joinWith {separator : Char} {parts : List (List Char)} (hne : parts ≠ [])
    (h : ∀ part ∈ parts, separator ∉ part) :
    splitOn separator (joinWith [separator] parts) = parts := by
  induction parts with
  | nil => exact absurd rfl hne
  | cons part rest ih =>
    obtain ⟨hpart, hrest⟩ := List.forall_mem_cons.mp h
    cases rest with
    | nil => exact splitOn_of_not_mem hpart
    | cons next more =>
      rw [joinWith_cons_cons, List.singleton_append, splitOn_append_cons hpart,
        ih (List.cons_ne_nil _ _) hrest]

/-! ## Lines at line boundaries -/

section
variable {line : List Char}

lemma cutLines_of_forall (h : ∀ c ∈ line, isBoundary c = false) :
    cutLines line = if line = [] then [] else [(line, [])] := by
  induction line with
  | nil => rfl
  | cons c rest ih =>
    obtain ⟨hc, hrest⟩ := List.forall_mem_cons.mp h
    rw [cutLines, ih hrest, hc]
    · cases rest <;> simp
    · rintro more rfl
      cases hc

lemma cutLines_append_newline (h : ∀ c ∈ line, isBoundary c = false) (rest : List Char) :
    cutLines (line ++ '\n' :: rest) = (line, ['\n']) :: cutLines rest := by
  induction line with
  | nil => simp [cutLines, isBoundary]
  | cons c more ih =>
    obtain ⟨hc, hmore⟩ := List.forall_mem_cons.mp h
    rw [List.cons_append, cutLines, ih hmore, hc]
    · rfl
    · rintro more' rfl
      cases hc

/-- Lines that are ended by newlines are cut apart again. -/
lemma cutLines_endLines {lines : List (List Char)}
    (h : ∀ line ∈ lines, ∀ c ∈ line, isBoundary c = false) :
    cutLines (endLines lines) = lines.map fun line => (line, ['\n']) := by
  induction lines with
  | nil => rfl
  | cons line rest ih =>
    obtain ⟨hline, hrest⟩ := List.forall_mem_cons.mp h
    have hcons : endLines (line :: rest) = line ++ '\n' :: endLines rest := by simp [endLines]
    rw [hcons, cutLines_append_newline hline, ih hrest, List.map_cons]

lemma splitLines_endLines {lines : List (List Char)}
    (h : ∀ line ∈ lines, ∀ c ∈ line, isBoundary c = false) : splitLines (endLines lines) = lines := by
  rw [splitLines, cutLines_endLines h, List.map_map]
  exact List.map_id lines

lemma mem_of_mem_splitLines {text : List Char} {c : Char} (hline : line ∈ splitLines text)
    (hc : c ∈ line) : c ∈ text := by
  obtain ⟨cut, hcut, rfl⟩ := List.mem_map.mp hline
  rw [← flatMap_cutLines text]
  exact List.mem_flatMap.mpr ⟨cut, hcut, List.mem_append_left _ hc⟩

/-- No line of a text holds what ends a line. -/
lemma isBoundary_eq_false_of_mem_splitLines {text : List Char} (hline : line ∈ splitLines text) :
    ∀ c ∈ line, isBoundary c = false := by
  intro c hc
  by_contra hboundary
  exact not_mem_of_mem_splitLines (by simpa using hboundary) hline hc

lemma mem_of_mem_endLines {lines : List (List Char)} {c : Char} (hc : c ∈ endLines lines) :
    c = '\n' ∨ ∃ line ∈ lines, c ∈ line := by
  obtain ⟨line, hline, hc⟩ := List.mem_flatMap.mp hc
  rcases List.mem_append.mp hc with hc | hc
  · exact .inr ⟨line, hline, hc⟩
  · exact .inl (List.mem_singleton.mp hc)

/-- No identifier holds what ends a line. -/
lemma isBoundary_eq_false_of_isIdentifierPart {c : Char} (h : isIdentifierPart c = true) :
    isBoundary c = false := by
  by_contra hboundary
  have hboundary : isBoundary c = true := by simpa using hboundary
  simp only [isBoundary, Bool.or_eq_true, beq_iff_eq] at hboundary
  rcases hboundary with ((((((((rfl | rfl) | rfl) | rfl) | rfl) | rfl) | rfl) | rfl) | rfl) | rfl <;>
    revert h <;> decide +kernel

end

end AdjointSynthesis.Text

import AdjointSynthesis.Text.NormalForm
import Mathlib.Tactic.Common

/-!
# Normal forms stay in a class

The normal form of a word is made of what its code points decompose to and of what such parts
compose to.  So a class of code points that neither step leaves holds the normal form of every word
that it holds.

* `decompose_cases`, `composite?_cases`: where parts and composites come from.
* `IsClosed`, `IsClosed.forall_mem_normalForm`: classes for all code points of a word.
* `IsLeading`, `IsLeading.normalForm_cons`: classes for the first one, which must not be moved.
-/

namespace AdjointSynthesis.Text

/-! ## Runs of code points -/

/-- Whether all code points from one to another lie in one of some closed ranges. -/
def isRunIn (places : List (Nat × Nat)) (first last : Nat) : Bool :=
  places.any fun range => Nat.ble range.1 first && Nat.ble last range.2

lemma inRanges_of_isRunIn {places : List (Nat × Nat)} {first last code : Nat}
    (h : isRunIn places first last = true) (hfirst : first ≤ code) (hlast : code ≤ last) :
    inRanges places code = true := by
  simp only [isRunIn, List.any_eq_true, Bool.and_eq_true, Nat.ble_eq] at h
  obtain ⟨range, hmem, hstart, hstop⟩ := h
  exact inRanges_eq_true_iff.mpr ⟨range, hmem, by omega, by omega⟩

/-! ## Steps to the normal form -/

/-- A code point is a syllable, belongs to a run, has an expansion of its own or stays. -/
lemma decompose_cases (code : Nat) :
    (0xac00 ≤ code ∧ code ≤ 0xd7a3 ∧ ∃ lead rest, decompose code = lead :: rest ∧
      ∀ part ∈ lead :: rest, 0x1100 ≤ part ∧ part ≤ 0x11ff) ∨
    (∃ run ∈ replacedRuns, run.1 ≤ code ∧ code < run.1 + run.2.1 ∧
      decompose code = [run.2.2 + (code - run.1)]) ∨
    (∃ entry ∈ expandedCharacters, entry.1 = code ∧ decompose code = entry.2) ∨
    decompose code = [code] := by
  unfold decompose
  split
  · next hsyllable =>
    refine .inl ⟨hsyllable.1, hsyllable.2, ?_⟩
    unfold hangulBase
    dsimp only
    split
    · exact ⟨_, _, rfl, by simp only [List.mem_cons, List.not_mem_nil, or_false]; omega⟩
    · exact ⟨_, _, rfl, by simp only [List.mem_cons, List.not_mem_nil, or_false]; omega⟩
  · right
    split
    · next run hrun =>
      have hin := List.find?_some hrun
      simp only [Bool.and_eq_true, Nat.ble_eq, Nat.blt_eq] at hin
      exact .inl ⟨run, List.mem_of_find?_eq_some hrun, hin.1, hin.2, rfl⟩
    · right
      split
      · next entry hentry =>
        have hkey := List.find?_some hentry
        exact .inl ⟨entry, List.mem_of_find?_eq_some hentry, beq_iff_eq.mp hkey, rfl⟩
      · exact .inr rfl

/-- A composite is a syllable or has an entry of its own. -/
lemma composite?_cases {first second whole : Nat} (h : composite? first second = some whole) :
    (0xac00 ≤ whole ∧ whole ≤ 0xd7a3) ∨
      ∃ entry ∈ composites, entry.1 = first ∧ entry.2.2 = whole := by
  unfold composite? hangulBase at h
  split at h
  · have hwhole := Option.some.inj h
    exact .inl (by omega)
  · split at h
    · have hwhole := Option.some.inj h
      exact .inl (by omega)
    · obtain ⟨entry, hentry, rfl⟩ := Option.map_eq_some_iff.mp h
      have hkeys := List.find?_some hentry
      simp only [Bool.and_eq_true, beq_iff_eq] at hkeys
      exact .inr ⟨entry, List.mem_of_find?_eq_some hentry, hkeys.1, rfl⟩

lemma mem_insertCombining (item entry : Nat × Nat) (entries : List (Nat × Nat)) :
    item ∈ insertCombining entry entries ↔ item = entry ∨ item ∈ entries := by
  fun_induction insertCombining entry entries <;> grind

/-- Ordering keeps the code points and adds none. -/
lemma mem_orderCombining (code : Nat) (codes : List Nat) :
    (∃ rank, (code, rank) ∈ orderCombining codes) ↔ code ∈ codes := by
  induction codes with
  | nil => simp [orderCombining]
  | cons first rest ih =>
    rw [List.mem_cons, ← ih, orderCombining, List.foldr_cons]
    dsimp only
    rw [← orderCombining]
    split
    · simp only [List.mem_cons, Prod.mk.injEq]
      exact ⟨by rintro ⟨rank, ⟨rfl, rfl⟩ | h⟩; exacts [.inl rfl, .inr ⟨rank, h⟩],
        by rintro (rfl | ⟨rank, h⟩); exacts [⟨0, .inl ⟨rfl, rfl⟩⟩, ⟨rank, .inr h⟩]⟩
    · simp only [mem_insertCombining, Prod.mk.injEq]
      exact ⟨by rintro ⟨rank, ⟨rfl, rfl⟩ | h⟩; exacts [.inl rfl, .inr ⟨rank, h⟩],
        by rintro (rfl | ⟨rank, h⟩); exacts [⟨_, .inl ⟨rfl, rfl⟩⟩, ⟨rank, .inr h⟩]⟩

/-- A code point that is not combining is not moved. -/
lemma orderCombining_cons {code : Nat} (h : combiningClass code = 0) (codes : List Nat) :
    orderCombining (code :: codes) = (code, 0) :: orderCombining codes := by
  rw [orderCombining, List.foldr_cons]
  exact if_pos h

lemma toNat_ofNat {code : Nat} (h : code.isValidChar) : (Char.ofNat code).toNat = code := by
  rw [Char.ofNat, dif_pos h]
  rfl

/-! ## Classes of code points -/

/-- A class of code points that normal forms do not leave. -/
structure IsClosed (holds : Nat → Prop) : Prop where
  valid {code : Nat} (h : holds code) : code.isValidChar
  parts {code : Nat} (h : holds code) : ∀ part ∈ decompose code, holds part
  whole {first second whole : Nat} (h : holds first) (hwhole : composite? first second = some whole) :
    holds whole

/-- A class of code points that stay in front of a word: they are not combining, and what they
decompose and compose to is in front again. -/
structure IsLeading (holds : Nat → Prop) : Prop where
  valid {code : Nat} (h : holds code) : code.isValidChar
  first_part {code : Nat} (h : holds code) : ∃ part rest, decompose code = part :: rest ∧ holds part
  not_combining {code : Nat} (h : holds code) : combiningClass code = 0
  whole {first second whole : Nat} (h : holds first) (hwhole : composite? first second = some whole) :
    holds whole

section
variable {holds : Nat → Prop} {starter last : Nat} {kept : List Nat} {entries : List (Nat × Nat)}

namespace IsClosed

variable (h : IsClosed holds)
include h

lemma forall_mem_composeAfter (hstarter : holds starter) (hkept : ∀ code ∈ kept, holds code)
    (hentries : ∀ entry ∈ entries, holds entry.1) :
    ∀ code ∈ composeAfter starter kept last entries, holds code := by
  have hstarted (starter : Nat) (kept : List Nat) (hstarter : holds starter)
      (hkept : ∀ code ∈ kept, holds code) : ∀ code ∈ starter :: kept.reverse, holds code := by
    intro code hcode
    rcases List.mem_cons.mp hcode with rfl | hcode
    · exact hstarter
    · exact hkept code (List.mem_reverse.mp hcode)
  fun_induction composeAfter starter kept last entries with
  | case1 starter kept => exact hstarted starter kept hstarter hkept
  | case2 starter kept last code rank rest blocked whole hwhole ih =>
    refine ih ?_ hkept fun entry hentry => hentries entry (List.mem_cons_of_mem _ hentry)
    split at hwhole
    · cases hwhole
    · exact h.whole hstarter hwhole
  | case3 starter kept last code rest blocked hnone ih =>
    intro found hfound
    rcases List.mem_append.mp hfound with hfound | hfound
    · exact hstarted starter kept hstarter hkept found hfound
    · exact ih (hentries (code, 0) List.mem_cons_self) (fun _ h => by cases h)
        (fun entry hentry => hentries entry (List.mem_cons_of_mem _ hentry)) found hfound
  | case4 starter kept last code rank rest blocked hnone hrank ih =>
    refine ih hstarter (fun found hfound => ?_)
      fun entry hentry => hentries entry (List.mem_cons_of_mem _ hentry)
    rcases List.mem_cons.mp hfound with rfl | hfound
    · exact hentries _ List.mem_cons_self
    · exact hkept found hfound

lemma forall_mem_compose (hentries : ∀ entry ∈ entries, holds entry.1) :
    ∀ code ∈ compose entries, holds code := by
  fun_induction compose entries with
  | case1 => exact fun _ h => by cases h
  | case2 code rest =>
    exact h.forall_mem_composeAfter (hentries (code, 0) List.mem_cons_self) (fun _ h => by cases h)
      fun entry hentry => hentries entry (List.mem_cons_of_mem _ hentry)
  | case3 code rank rest hrank ih =>
    intro found hfound
    rcases List.mem_cons.mp hfound with rfl | hfound
    · exact hentries _ List.mem_cons_self
    · exact ih (fun entry hentry => hentries entry (List.mem_cons_of_mem _ hentry)) found hfound

/-- **The normal form of a word stays in a class that holds the word.** -/
lemma forall_mem_normalForm {word : List Char} (hword : ∀ c ∈ word, holds c.toNat) :
    ∀ c ∈ normalForm word, holds c.toNat := by
  unfold normalForm
  split
  · exact hword
  · intro c hc
    obtain ⟨code, hcode, rfl⟩ := List.mem_map.mp hc
    have hholds : holds code := by
      refine h.forall_mem_compose (fun entry hentry => ?_) code hcode
      have hpart := (mem_orderCombining entry.1 _).mp ⟨entry.2, hentry⟩
      obtain ⟨c, hc, hpart⟩ := List.mem_flatMap.mp hpart
      exact h.parts (hword c hc) entry.1 hpart
    rwa [toNat_ofNat (h.valid hholds)]

end IsClosed

namespace IsLeading

variable (h : IsLeading holds)
include h

lemma composeAfter_eq_cons (hstarter : holds starter) :
    ∃ first rest, composeAfter starter kept last entries = first :: rest ∧ holds first := by
  fun_induction composeAfter starter kept last entries with
  | case1 starter kept => exact ⟨_, _, rfl, hstarter⟩
  | case2 starter kept last code rank rest blocked whole hwhole ih =>
    refine ih ?_
    split at hwhole
    · cases hwhole
    · exact h.whole hstarter hwhole
  | case3 starter kept last code rest blocked hnone ih => exact ⟨_, _, rfl, hstarter⟩
  | case4 starter kept last code rank rest blocked hnone hrank ih => exact ih hstarter

/-- **What stands in front of a word stays in a class that keeps its place.** -/
lemma normalForm_cons {c : Char} (hc : holds c.toNat) (rest : List Char) :
    ∃ d more, normalForm (c :: rest) = d :: more ∧ holds d.toNat := by
  unfold normalForm
  split
  · exact ⟨c, rest, rfl, hc⟩
  · obtain ⟨part, others, hparts, hpart⟩ := h.first_part hc
    rw [List.flatMap_cons, hparts, List.cons_append, orderCombining_cons (h.not_combining hpart),
      compose, if_pos rfl]
    obtain ⟨first, more, hfirst, hholds⟩ : ∃ first more, composeAfter part [] 0
        (orderCombining (others ++ rest.flatMap fun c => decompose c.toNat)) = first :: more ∧
          holds first := h.composeAfter_eq_cons hpart
    rw [hfirst, List.map_cons]
    exact ⟨_, _, rfl, by rwa [toNat_ofNat (h.valid hholds)]⟩

end IsLeading

end

end AdjointSynthesis.Text

import AdjointSynthesis.Proofs.NormalForms
import AdjointSynthesis.Text.Identifier

/-!
# Normal forms of identifiers

The normal form of an identifier is an identifier: neither what its characters decompose to nor what
they compose to leads out of the characters of identifiers, and what may stand in front stays there.
This is a property of the tables of the Unicode standard, and it is checked for each of their
entries.

* `codeSet`: ranges of code points as the bits of a number, where a lookup takes one step.
* `isClosed_part`, `isLeading_start`: what the tables do to the characters of identifiers.
* `isIdentifier_normalForm`: what follows for whole words.
-/

namespace AdjointSynthesis.Text

/-! ## Code points of identifiers -/

/-- The code points that may start an identifier. -/
def startPlaces : List (Nat × Nat) := (0x41, 0x5a) :: (0x5f, 0x5f) :: (0x61, 0x7a) :: startRanges

/-- The code points that may stand inside an identifier. -/
def partPlaces : List (Nat × Nat) := startPlaces ++ (0x30, 0x39) :: continueRanges

/-- Some ranges of code points as the bits of a number. -/
def codeSet : List (Nat × Nat) → Nat
  | [] => 0
  | range :: rest => (((1 <<< (range.2 + 1 - range.1)) - 1) <<< range.1) ||| codeSet rest

lemma testBit_codeSet (ranges : List (Nat × Nat)) (code : Nat) :
    (codeSet ranges).testBit code = inRanges ranges code := by
  induction ranges with
  | nil => simp [codeSet, inRanges]
  | cons range rest ih =>
    have hrange : (((1 <<< (range.2 + 1 - range.1)) - 1) <<< range.1).testBit code =
        (Nat.ble range.1 code && Nat.ble code range.2) := by
      rw [Nat.testBit_shiftLeft, Nat.one_shiftLeft, Nat.testBit_two_pow_sub_one, Bool.eq_iff_iff]
      simp only [Bool.and_eq_true, decide_eq_true_eq, Nat.ble_eq]
      omega
    rw [codeSet, Nat.testBit_or, hrange, ih]
    rfl

lemma inRanges_append (ranges others : List (Nat × Nat)) (code : Nat) :
    inRanges (ranges ++ others) code = (inRanges ranges code || inRanges others code) :=
  List.any_append

/-- The tables have no characters of seven bits. -/
lemma inRanges_eq_false {code : Nat} (h : code < 128) :
    inRanges startRanges code = false ∧ inRanges continueRanges code = false := by
  have behind {ranges : List (Nat × Nat)} (hranges : ranges.all (Nat.ble 128 ·.1) = true) :
      inRanges ranges code = false := by
    refine Bool.eq_false_iff.mpr fun hin => ?_
    obtain ⟨range, hrange, hfirst, -⟩ := inRanges_eq_true_iff.mp hin
    have := Nat.ble_eq.mp (List.all_eq_true.mp hranges range hrange)
    omega
  exact ⟨behind (by decide +kernel), behind (by decide +kernel)⟩

lemma inRanges_cons (first last : Nat) (ranges : List (Nat × Nat)) (code : Nat) :
    inRanges ((first, last) :: ranges) code = true ↔
      first ≤ code ∧ code ≤ last ∨ inRanges ranges code = true := by
  simp [inRanges]

lemma isIdentifierStart_iff {c : Char} :
    isIdentifierStart c = true ↔ inRanges startPlaces c.toNat = true := by
  have hunder : c = '_' ↔ c.toNat = 0x5f := ⟨by rintro rfl; rfl, fun h => Char.toNat_inj.mp h⟩
  have hupper : c.isUpper = decide (c.val ≥ 'A'.val ∧ c.val ≤ 'Z'.val) := rfl
  have hlower : c.isLower = (decide (c.val ≥ 'a'.val) && decide (c.val ≤ 'z'.val)) := rfl
  have halpha : c.isAlpha = true ↔
      0x41 ≤ c.toNat ∧ c.toNat ≤ 0x5a ∨ 0x61 ≤ c.toNat ∧ c.toNat ≤ 0x7a := by
    have : c.isAlpha = (c.isUpper || c.isLower) := rfl
    rw [this, hupper, hlower]
    simp only [Bool.or_eq_true, Bool.and_eq_true, decide_eq_true_eq, ge_iff_le,
      UInt32.le_iff_toNat_le]
    rfl
  rw [isIdentifierStart, startPlaces, inRanges_cons, inRanges_cons, inRanges_cons]
  split
  · next hascii =>
    rw [Bool.or_eq_true, halpha, beq_iff_eq, hunder, (inRanges_eq_false hascii).1]
    simp only [Bool.false_eq_true, or_false]
    omega
  · next hascii => grind

lemma isIdentifierPart_iff {c : Char} :
    isIdentifierPart c = true ↔ inRanges partPlaces c.toNat = true := by
  have hdigit : c.isDigit = true ↔ 0x30 ≤ c.toNat ∧ c.toNat ≤ 0x39 := by
    simp only [Char.isDigit, Bool.and_eq_true, decide_eq_true_eq, ge_iff_le,
      UInt32.le_iff_toNat_le]
    rfl
  rw [isIdentifierPart, partPlaces, inRanges_append, Bool.or_eq_true, Bool.or_eq_true,
    isIdentifierStart_iff, inRanges_cons]
  refine or_congr_right ?_
  split
  · next hascii =>
    rw [hdigit, (inRanges_eq_false hascii).2]
    simp only [Bool.false_eq_true, or_false]
  · next hascii => grind

/-! ## What the tables do -/

/-- What replaces characters of a run are characters of identifiers.  They may stand in front if those
of the run may. -/
lemma replacedRuns_identifier : ∀ run ∈ replacedRuns, ∀ i < run.2.1,
    inRanges startPlaces (run.2.2 + i) = true ∨ inRanges partPlaces (run.2.2 + i) = true ∧
      inRanges startPlaces (run.1 + i) = false := by
  have hall : (replacedRuns.all fun run => (List.range run.2.1).all fun i =>
      (codeSet startPlaces).testBit (run.2.2 + i) || (codeSet partPlaces).testBit (run.2.2 + i) &&
        !(codeSet startPlaces).testBit (run.1 + i)) = true := by decide +kernel
  simpa [testBit_codeSet] using hall

lemma expandedCharacters_identifier : ∀ entry ∈ expandedCharacters,
    (∀ part ∈ entry.2, inRanges partPlaces part = true) ∧
      ((∃ part ∈ entry.2.head?, inRanges startPlaces part = true) ∨
        inRanges startPlaces entry.1 = false) := by
  have hall : (expandedCharacters.all fun entry => entry.2.all (codeSet partPlaces).testBit &&
      (entry.2.head?.any (codeSet startPlaces).testBit ||
        !(codeSet startPlaces).testBit entry.1)) = true := by decide +kernel
  simpa [testBit_codeSet, Option.any_eq_true] using hall

lemma composites_identifier : ∀ entry ∈ composites, inRanges startPlaces entry.2.2 = true ∨
    inRanges startPlaces entry.1 = false ∧
      (inRanges partPlaces entry.2.2 = true ∨ inRanges partPlaces entry.1 = false) := by
  have hall : (composites.all fun entry => (codeSet startPlaces).testBit entry.2.2 ||
      !(codeSet startPlaces).testBit entry.1 && ((codeSet partPlaces).testBit entry.2.2 ||
        !(codeSet partPlaces).testBit entry.1)) = true := by decide +kernel
  simpa [testBit_codeSet] using hall

/-- No character that may stand in front is combining. -/
lemma combiningClass_start {code : Nat} (h : inRanges startPlaces code = true) :
    combiningClass code = 0 := by
  have hapart : codeSet startPlaces &&&
      codeSet (combiningRanges.map fun range => (range.1, range.2.1)) = 0 := by decide +kernel
  have hnone : inRanges (combiningRanges.map fun range => (range.1, range.2.1)) code = false := by
    have hbit := congrArg (Nat.testBit · code) hapart
    simpa only [Nat.testBit_and, testBit_codeSet, h, Bool.true_and, Nat.zero_testBit] using hbit
  have hfind : combiningRanges.find? (fun range => Nat.ble range.1 code && Nat.ble code range.2.1) =
      none := by
    simpa [inRanges, List.find?_eq_none] using hnone
  rw [combiningClass, hfind]

/-! ## Classes -/

lemma part_of_start {code : Nat} (h : inRanges startPlaces code = true) :
    inRanges partPlaces code = true := by
  rw [partPlaces, inRanges_append, h, Bool.true_or]

lemma isValidChar_of_part {code : Nat} (h : inRanges partPlaces code = true) : code.isValidChar := by
  have hvalid : (partPlaces.all fun range =>
      Nat.blt range.2 0xd800 || Nat.blt 0xdfff range.1 && Nat.blt range.2 0x110000) = true := by
    decide +kernel
  obtain ⟨range, hrange, hfirst, hlast⟩ := inRanges_eq_true_iff.mp h
  have := List.all_eq_true.mp hvalid range hrange
  simp only [Bool.or_eq_true, Bool.and_eq_true, Nat.blt_eq] at this
  unfold Nat.isValidChar
  omega

/-- The letters of which syllables are made may start identifiers, and so may the syllables. -/
lemma start_of_syllable {code : Nat}
    (h : 0x1100 ≤ code ∧ code ≤ 0x11ff ∨ 0xac00 ≤ code ∧ code ≤ 0xd7a3) :
    inRanges startPlaces code = true := by
  have hletters : isRunIn startPlaces 0x1100 0x11ff = true := by decide +kernel
  have hsyllables : isRunIn startPlaces 0xac00 0xd7a3 = true := by decide +kernel
  rcases h with ⟨hfirst, hlast⟩ | ⟨hfirst, hlast⟩
  · exact inRanges_of_isRunIn hletters hfirst hlast
  · exact inRanges_of_isRunIn hsyllables hfirst hlast

/-- Normal forms do not leave the characters of identifiers. -/
lemma isClosed_part : IsClosed (inRanges partPlaces · = true) where
  valid := isValidChar_of_part
  parts {code} h := by
    rcases decompose_cases code with ⟨-, -, lead, rest, hparts, hrange⟩ |
      ⟨run, hrun, hfirst, hlast, hparts⟩ | ⟨entry, hentry, rfl, hparts⟩ | hparts <;> rw [hparts]
    · exact fun part hpart => part_of_start (start_of_syllable (.inl (hrange part hpart)))
    · rw [List.forall_mem_singleton]
      rcases replacedRuns_identifier run hrun (code - run.1) (by omega) with hstart | ⟨hpart, -⟩
      · exact part_of_start hstart
      · exact hpart
    · exact (expandedCharacters_identifier entry hentry).1
    · exact List.forall_mem_singleton.mpr h
  whole h hwhole := by
    rcases composite?_cases hwhole with hsyllable | ⟨entry, hentry, rfl, rfl⟩
    · exact part_of_start (start_of_syllable (.inr hsyllable))
    · rcases composites_identifier entry hentry with hstart | ⟨-, hpart | hpart⟩
      · exact part_of_start hstart
      · exact hpart
      · rw [h] at hpart
        cases hpart

/-- What stands in front of an identifier may stand in front of its normal form. -/
lemma isLeading_start : IsLeading (inRanges startPlaces · = true) where
  valid h := isValidChar_of_part (part_of_start h)
  not_combining := combiningClass_start
  first_part {code} h := by
    rcases decompose_cases code with ⟨-, -, lead, rest, hparts, hrange⟩ |
      ⟨run, hrun, hfirst, hlast, hparts⟩ | ⟨entry, hentry, rfl, hparts⟩ | hparts
    · exact ⟨lead, rest, hparts, start_of_syllable (.inl (hrange lead List.mem_cons_self))⟩
    · refine ⟨_, [], hparts, ?_⟩
      rcases replacedRuns_identifier run hrun (code - run.1) (by omega) with hstart | ⟨-, hnone⟩
      · exact hstart
      · rw [Nat.add_sub_cancel' hfirst, h] at hnone
        cases hnone
    · rcases (expandedCharacters_identifier entry hentry).2 with ⟨part, hpart, hstart⟩ | hnone
      · obtain ⟨rest, hrest⟩ := List.head?_eq_some_iff.mp hpart
        exact ⟨part, rest, hparts.trans hrest, hstart⟩
      · rw [h] at hnone
        cases hnone
    · exact ⟨code, [], hparts, h⟩
  whole h hwhole := by
    rcases composite?_cases hwhole with hsyllable | ⟨entry, hentry, rfl, rfl⟩
    · exact start_of_syllable (.inr hsyllable)
    · rcases composites_identifier entry hentry with hstart | ⟨hnone, -⟩
      · exact hstart
      · rw [h] at hnone
        cases hnone

/-- **The normal form of an identifier is an identifier.** -/
theorem isIdentifier_normalForm {word : List Char} (h : isIdentifier word = true) :
    isIdentifier (normalForm word) = true := by
  cases word with
  | nil => cases h
  | cons c rest =>
    have hparts : ∀ d ∈ normalForm (c :: rest), inRanges partPlaces d.toNat = true :=
      isClosed_part.forall_mem_normalForm fun d hd =>
        isIdentifierPart_iff.mp (List.all_eq_true.mp (all_part_of_isIdentifier h) d hd)
    have hc : isIdentifierStart c = true := (Bool.and_eq_true_iff.mp h).1
    obtain ⟨d, more, hform, hd⟩ := isLeading_start.normalForm_cons (isIdentifierStart_iff.mp hc) rest
    rw [hform] at hparts ⊢
    rw [isIdentifier, Bool.and_eq_true, isIdentifierStart_iff, List.all_eq_true]
    exact ⟨hd, fun e he => isIdentifierPart_iff.mpr (hparts e (List.mem_cons_of_mem _ he))⟩

end AdjointSynthesis.Text

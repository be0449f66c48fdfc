import AdjointSynthesis.Proofs.Forgetful
import AdjointSynthesis.Proofs.NormalForms
import AdjointSynthesis.Proofs.Usage

/-!
# Names are words

A name of a program is the normal form of a word, and normal forms bring no signs and no blanks
with them: what a character of a word decomposes to, and what characters of words compose to, are
characters of words again.

* `normalForm_word`: the normal form of a word is a word.
* `isWord_of_mem_referenced`: every variable that a block refers to is a word.
-/

namespace AdjointSynthesis

namespace Text

/-! ## Code points of words -/

/-- The code points of the characters that words are made of. -/
def wordRanges : List (Nat × Nat) :=
  [(0x30, 0x39), (0x41, 0x5a), (0x5f, 0x5f), (0x61, 0x7a), (0x80, 0xd7ff), (0xe000, 0x10ffff)]

lemma isValidChar_of_word {code : Nat} (h : inRanges wordRanges code = true) : code.isValidChar := by
  simp only [inRanges_eq_true_iff, wordRanges, List.mem_cons, List.not_mem_nil, or_false,
    exists_eq_or_imp, exists_eq_left] at h
  unfold Nat.isValidChar
  omega

lemma replacedRuns_word :
    ∀ run ∈ replacedRuns, isRunIn wordRanges run.2.2 (run.2.2 + (run.2.1 - 1)) = true :=
  List.all_eq_true.mp (by decide +kernel)

lemma expandedCharacters_word : ∀ entry ∈ expandedCharacters,
    (entry.2.all (inRanges wordRanges) && !entry.2.isEmpty) = true :=
  List.all_eq_true.mp (by decide +kernel)

lemma composites_word : ∀ entry ∈ composites, inRanges wordRanges entry.2.2 = true :=
  List.all_eq_true.mp (by decide +kernel)

/-- Words decompose to words. -/
lemma decompose_word {code : Nat} (h : inRanges wordRanges code = true) :
    decompose code ≠ [] ∧ ∀ part ∈ decompose code, inRanges wordRanges part = true := by
  rcases decompose_cases code with ⟨-, -, lead, rest, hparts, hrange⟩ |
    ⟨run, hrun, hfirst, hlast, hparts⟩ | ⟨entry, hentry, rfl, hparts⟩ | hparts <;> rw [hparts]
  · refine ⟨List.cons_ne_nil _ _, fun part hpart => ?_⟩
    have hjamo : isRunIn wordRanges 0x1100 0x11ff = true := rfl
    exact inRanges_of_isRunIn hjamo (hrange part hpart).1 (hrange part hpart).2
  · refine ⟨List.cons_ne_nil _ _, List.forall_mem_singleton.mpr ?_⟩
    exact inRanges_of_isRunIn (replacedRuns_word run hrun) (by omega) (by omega)
  · have hall := expandedCharacters_word entry hentry
    simp only [Bool.and_eq_true, List.all_eq_true, Bool.not_eq_true',
      List.isEmpty_eq_false_iff] at hall
    exact hall.symm
  · exact ⟨List.cons_ne_nil _ _, List.forall_mem_singleton.mpr h⟩

lemma isClosed_word : IsClosed (inRanges wordRanges · = true) where
  valid := isValidChar_of_word
  parts h := (decompose_word h).2
  whole _ hwhole := by
    rcases composite?_cases hwhole with ⟨hfirst, hlast⟩ | ⟨entry, hentry, -, rfl⟩
    · exact inRanges_of_isRunIn (show isRunIn wordRanges 0xac00 0xd7a3 = true from rfl) hfirst hlast
    · exact composites_word entry hentry

/-! ## Normal forms -/

lemma composeAfter_ne_nil (starter last : Nat) (kept : List Nat) (entries : List (Nat × Nat)) :
    composeAfter starter kept last entries ≠ [] := by
  fun_induction composeAfter starter kept last entries <;> simp_all

lemma compose_ne_nil {entries : List (Nat × Nat)} (h : entries ≠ []) : compose entries ≠ [] := by
  fun_cases compose entries <;> simp_all [composeAfter_ne_nil]

/-! ## Words -/

end Text

namespace Code

open Text

/-- Whether a text is a word: one or more characters that words are made of. -/
def isWord (word : List Char) : Bool := !word.isEmpty && word.all isWordPart

lemma isWord_iff {word : List Char} :
    isWord word = true ↔ word ≠ [] ∧ ∀ c ∈ word, isWordPart c = true := by
  simp [isWord]

lemma isWordPart_iff {c : Char} :
    isWordPart c = true ↔ inRanges wordRanges c.toNat = true := by
  have hvalid : c.toNat < 0xd800 ∨ 0xdfff < c.toNat ∧ c.toNat < 0x110000 := c.valid
  have hunder : c = '_' ↔ c.toNat = 0x5f := ⟨by rintro rfl; rfl, fun h => Char.toNat_inj.mp h⟩
  have hupper : c.isUpper = decide (c.val ≥ 'A'.val ∧ c.val ≤ 'Z'.val) := rfl
  have hlower : c.isLower = (decide (c.val ≥ 'a'.val) && decide (c.val ≤ 'z'.val)) := rfl
  have halpha : c.isAlpha = (c.isUpper || c.isLower) := rfl
  simp only [isWordPart, Char.isAlphanum, halpha, hupper, hlower, Char.isDigit,
    Bool.or_eq_true, Bool.and_eq_true, decide_eq_true_eq, beq_iff_eq, Nat.ble_eq, ge_iff_le,
    UInt32.le_iff_toNat_le, hunder, inRanges_eq_true_iff, wordRanges, List.mem_cons,
    List.not_mem_nil, or_false, exists_eq_or_imp, exists_eq_left]
  change ((((0x41 ≤ c.toNat ∧ c.toNat ≤ 0x5a) ∨ (0x61 ≤ c.toNat ∧ c.toNat ≤ 0x7a)) ∨
    (0x30 ≤ c.toNat ∧ c.toNat ≤ 0x39)) ∨ c.toNat = 0x5f) ∨ 128 ≤ c.toNat ↔ _
  omega

lemma isWordPart_of_isIdentifierPart {c : Char} (h : isIdentifierPart c = true) :
    isWordPart c = true := by
  by_cases hascii : c.toNat < 128
  · simp only [isIdentifierPart, isIdentifierStart, if_pos hascii, Bool.or_eq_true] at h
    simp only [isWordPart, Char.isAlphanum, Bool.or_eq_true]
    rcases h with (h | h) | h
    · exact .inl (.inl (.inl h))
    · exact .inl (.inr h)
    · exact .inl (.inl (.inr h))
  · simp only [isWordPart, Bool.or_eq_true, Nat.ble_eq]
    exact .inr (Nat.le_of_not_lt hascii)

/-- An identifier is a word. -/
lemma isWord_of_isIdentifier {word : List Char} (h : isIdentifier word = true) :
    isWord word = true := by
  refine isWord_iff.mpr ⟨fun hnil => ?_, fun c hc => ?_⟩
  · rw [hnil] at h
    cases h
  · exact isWordPart_of_isIdentifierPart
      (List.all_eq_true.mp (all_part_of_isIdentifier h) c hc)

lemma isWord_append {word tail : List Char} (h : isWord word = true)
    (htail : ∀ c ∈ tail, isWordPart c = true) : isWord (word ++ tail) = true := by
  obtain ⟨hne, hall⟩ := isWord_iff.mp h
  refine isWord_iff.mpr ⟨List.append_ne_nil_of_left_ne_nil hne _, fun c hc => ?_⟩
  exact (List.mem_append.mp hc).elim (hall c) (htail c)

/-- The normal form of a word is a word. -/
theorem normalForm_word {word : List Char} (h : isWord word = true) :
    isWord (normalForm word) = true := by
  obtain ⟨hne, hall⟩ := isWord_iff.mp h
  refine isWord_iff.mpr ⟨?_, fun c hc => isWordPart_iff.mpr ?_⟩
  · unfold normalForm
    split
    · exact hne
    · obtain ⟨c, rest, rfl⟩ := List.exists_cons_of_ne_nil hne
      obtain ⟨code, hcode⟩ := List.exists_mem_of_ne_nil _
        (decompose_word (isWordPart_iff.mp (hall c List.mem_cons_self))).1
      have hpart : code ∈ (c :: rest).flatMap fun c => decompose c.toNat :=
        List.mem_flatMap.mpr ⟨c, List.mem_cons_self, hcode⟩
      obtain ⟨rank, hmem⟩ := (mem_orderCombining code _).mpr hpart
      exact fun hnil => compose_ne_nil (List.ne_nil_of_mem hmem) (List.map_eq_nil_iff.mp hnil)
  · exact isClosed_word.forall_mem_normalForm (fun c hc => isWordPart_iff.mp (hall c hc)) c hc

lemma passesNames_isWord : PassesNames fun name => isWord name.toList := by
  intro word hword
  obtain ⟨hne, hall, -, -⟩ := hword
  have := normalForm_word (isWord_iff.mpr ⟨hne, List.all_eq_true.mp hall⟩)
  simpa only [String.toList_ofList] using this

/-- The variables of a program are words. -/
lemma isWord_of_mem_namesInBody {text : List Char} {statements : List Stmt}
    (h : read text = .ok statements) {depth : Nat} {occurrence : Occurrence}
    (hmem : occurrence ∈ namesInBody depth statements) : isWord occurrence.name.toList = true := by
  have hseen := seen_through_of_read passesNames_isWord h
  have hnames := namesInBody_seen (.through fun name => isWord name.toList) depth statements
  rw [seenInBody_eq_map, hseen] at hnames
  rw [hnames] at hmem
  obtain ⟨before, -, rfl⟩ := List.mem_map.mp hmem
  simp only [Occurrence.seen, View.through]
  split
  · assumption
  · rfl

end Code

/-! ## What a block refers to -/

/-- **Every variable that a block refers to is a word.** -/
theorem Usage.isWord_of_mem_referenced {source : List Char} {usage : Usage}
    (h : Usage.ofText source = .ok usage) {name : String} (hmem : name ∈ usage.referenced) :
    Code.isWord name.toList = true := by
  obtain ⟨-, -, hread, hreferenced, -⟩ := Usage.ofText_eq_ok_iff.mp h
  rw [hreferenced, mem_firstOccurrences] at hmem
  obtain ⟨occurrence, hoccurrence, rfl⟩ := List.mem_map.mp hmem
  exact Code.isWord_of_mem_namesInBody hread ((Code.mem_sorted _ _ _).mp hoccurrence)

end AdjointSynthesis

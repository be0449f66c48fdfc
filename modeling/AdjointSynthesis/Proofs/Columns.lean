import AdjointSynthesis.Proofs.Writes
import Mathlib.Data.String.Basic

/-!
# Bytes before a target

A target counts as the first thing on its line when as many bytes stand before it as the line has
white-space characters in front.  These are counts of different things, and on a line with characters
of several bytes they might agree by accident.  They never do.

* `bytesOf_eq_utf8ByteSize`: the bytes before a target are those of the UTF-8 encoding.
* `bytesOf_eq_leadingBlanks_iff_narrow`: when the two counts agree.
* `startsLine_target`: a target counts as first behind white space of one byte each, and nowhere
  else.
-/

namespace AdjointSynthesis

open Code

/-! ## Widths -/

lemma byteWidth_eq_utf8Size (c : Char) : byteWidth c = c.utf8Size := by
  have hcode (bound : UInt32) : c.val ≤ bound ↔ c.toNat < bound.toNat + 1 :=
    UInt32.le_iff_toNat_le.trans Nat.lt_succ_iff.symm
  simp only [Char.utf8Size, hcode]
  rfl

/-- The bytes of a text are those of its encoding. -/
lemma bytesOf_eq_utf8ByteSize (text : List Char) :
    bytesOf text = (String.ofList text).utf8ByteSize := by
  rw [String.utf8ByteSize_ofList]
  induction text with
  | nil => rfl
  | cons c rest ih =>
    rw [bytesOf_cons, String.utf8Len_cons, ih, byteWidth_eq_utf8Size, Nat.add_comm]

lemma byteWidth_eq_one_iff {c : Char} : byteWidth c = 1 ↔ c.toNat < 128 := by
  unfold byteWidth
  split
  · next h => exact iff_of_true rfl h
  · next h => exact iff_of_false (by split <;> [decide; (split <;> decide)]) h

/-- A text has as many bytes as characters just when no character is wide. -/
lemma bytesOf_eq_length_iff {text : List Char} :
    bytesOf text = text.length ↔ ∀ c ∈ text, byteWidth c = 1 := by
  refine ⟨fun h => ?_, bytesOf_eq_length⟩
  induction text with
  | nil => exact fun _ hc => nomatch hc
  | cons c rest ih =>
    have hc := one_le_byteWidth c
    have hrest := length_le_bytesOf rest
    rw [bytesOf_cons, List.length_cons] at h
    exact List.forall_mem_cons.mpr ⟨by omega, ih (by omega)⟩

/-! ## Two counts -/

/-- Whether a text is white space of one byte a character. -/
def IsNarrowSpace (text : List Char) : Prop :=
  ∀ c ∈ text, Text.isBlank c = true ∧ c.toNat < 128

instance decidableIsNarrowSpace (text : List Char) : Decidable (IsNarrowSpace text) :=
  List.decidableBAll (fun c => Text.isBlank c = true ∧ c.toNat < 128) text

section
variable {before behind : List Char}

/-- **When the two counts agree**: all that stands before a place is white space, and none of it is
wide. -/
lemma bytesOf_eq_leadingBlanks_iff_narrow (hbehind : Text.leadingBlanks behind = 0) :
    bytesOf before = Text.leadingBlanks (before ++ behind) ↔ IsNarrowSpace before := by
  by_cases hblank : ∀ c ∈ before, Text.isBlank c = true
  · rw [leadingBlanks_append hblank, hbehind, Nat.add_zero, bytesOf_eq_length_iff]
    simp only [byteWidth_eq_one_iff]
    exact ⟨fun h c hc => ⟨hblank c hc, h c hc⟩, fun h c hc => (h c hc).2⟩
  · -- the blanks end before the place, so it does not matter how wide they are
    have hnarrow : HasNarrowBlanks before := fun hall => absurd hall hblank
    exact iff_of_false (fun heq => hblank ((bytesOf_eq_leadingBlanks_iff hnarrow).mp heq).1)
      fun h => hblank fun c hc => (h c hc).1

end

/-! ## The first thing on a line -/

section
variable {lines : List (List Char)} {index : ℕ} {before behind : List Char} {c : Char}

/-- A place counts as the first on its line when only narrow white space stands before it. -/
lemma startsLine?_eq (hline : lines[index]? = some (before ++ c :: behind))
    (hc : Text.isBlank c = false) :
    startsLine? lines ⟨index + 1, bytesOf before⟩ = some (decide (IsNarrowSpace before)) := by
  have hbehind : Text.leadingBlanks (c :: behind) = 0 := by
    rw [Text.leadingBlanks, List.takeWhile_cons_of_neg (by simp [hc]), List.length_nil]
  rw [startsLine?, Nat.add_sub_cancel, hline, Option.map_some, Option.some.injEq,
    Bool.eq_iff_iff, beq_iff_eq, decide_eq_true_iff]
  exact bytesOf_eq_leadingBlanks_iff_narrow hbehind

/-- **A target counts as the first thing on its line** just when nothing but narrow white space stands
before it, and then a write to its root is found.  Wide characters before or behind the target make no
difference. -/
theorem startsLine_target {target : Expr} (hline : lines[index]? = some (before ++ c :: behind))
    (hc : Text.isBlank c = false)
    (hplace : target.span.start = ⟨index + 1, (String.ofList before).utf8ByteSize⟩) :
    startsLine? lines target.span.start = some (decide (IsNarrowSpace before)) ∧
      writeTo? lines target = .ok (if IsNarrowSpace before then
        target.subscriptRoot?.map fun root => ⟨target.span.start, root⟩ else none) := by
  have hfirst : startsLine? lines target.span.start = some (decide (IsNarrowSpace before)) := by
    rw [hplace, ← bytesOf_eq_utf8ByteSize]
    exact startsLine?_eq hline hc
  refine ⟨hfirst, ?_⟩
  rw [writeTo?, hfirst]
  cases target.subscriptRoot? with
  | none => simp
  | some root => by_cases hnarrow : IsNarrowSpace before <;> simp [hnarrow]

/-- A wide character before a target, one behind it, and a wide blank before it. -/
theorem startsLine_target_wide :
    let lines := ["é, a[0] = v".toList, "\t a[0] = 'é'".toList, "\u3000a[0] = 1".toList]
    let target (line column : ℕ) : Expr :=
      let span : Span := ⟨⟨line, column⟩, ⟨line, column + 4⟩⟩
      .mk span (.subscript (.mk span (.name "a")) (.mk span (.constant (.number "0"))))
    (startsLine? lines (target 1 4).span.start = some false ∧
      writeTo? lines (target 1 4) = .ok none) ∧
    (startsLine? lines (target 2 2).span.start = some true ∧
      writeTo? lines (target 2 2) = .ok (some ⟨⟨2, 2⟩, "a"⟩)) ∧
    (startsLine? lines (target 3 3).span.start = some false ∧
      writeTo? lines (target 3 3) = .ok none) := by
  intro lines target
  have hfirst : lines[0]? = some ("é, ".toList ++ 'a' :: "[0] = v".toList) := by decide
  have hsecond : lines[1]? = some ("\t ".toList ++ 'a' :: "[0] = 'é'".toList) := by decide
  have hthird : lines[2]? = some ("\u3000".toList ++ 'a' :: "[0] = 1".toList) := by decide
  exact ⟨startsLine_target hfirst (by decide) (by decide),
    startsLine_target hsecond (by decide) (by decide),
    startsLine_target hthird (by decide) (by decide)⟩

end

end AdjointSynthesis

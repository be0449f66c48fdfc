import AdjointSynthesis.Proofs.Capture
import AdjointSynthesis.Proofs.Validation

/-!
# Names put together from identifiers

The names that the definitions of a block introduce are put together from the name of the block, its
variables and four settings.  The settings are checked one by one and long before, the end of the
in-place names only behind a letter that stands for the name to come.  That is enough.

* `Naming.IsProper`: what is asked of the names for a block.
* `Naming.isProper_of_valid`: valid settings make such names out of every identifier.
* `Naming.isProper_of_accepted`: so do accepted ones, and all names beside variables are
  identifiers.
-/

namespace AdjointSynthesis

open Text

/-! ## Identifiers behind each other -/

section
variable {start name stop : String}

/-- An identifier in front of another makes an identifier. -/
lemma isIdentifier_concat (hstart : isIdentifier start.toList = true)
    (hname : isIdentifier name.toList = true) : isIdentifier (start ++ name).toList = true := by
  rw [String.toList_append]
  exact isIdentifier_append hstart (all_part_of_isIdentifier hname)

/-- What makes an identifier behind one letter makes one behind every identifier. -/
lemma isIdentifier_concat_of_letter {letter : Char} (hname : isIdentifier name.toList = true)
    (hstop : isIdentifier (letter :: stop.toList) = true) :
    isIdentifier (name ++ stop).toList = true := by
  rw [String.toList_append]
  exact isIdentifier_append hname (Bool.and_eq_true_iff.mp hstop).2

lemma ne_empty_of_isIdentifier (h : isIdentifier name.toList = true) : name ≠ "" := by
  rintro rfl
  cases h

end

/-! ## The names for a block -/

namespace Naming

/-- Whether the names for a block are identifiers, those of its forms differ from its own, and
different variables have gradients of different names. -/
structure IsProper (naming : Naming) : Prop where
  inplace : isIdentifier naming.inplace.toList = true
  backward : isIdentifier naming.backward.toList = true
  cotangent : isIdentifier naming.cotangent.toList = true
  gradient : ∀ name, isIdentifier name.toList = true →
    isIdentifier (naming.gradient name).toList = true
  inplace_ne : naming.inplace ≠ naming.plain
  backward_ne : naming.backward ≠ naming.plain
  gradient_ne : ∀ name other, name ≠ other → naming.gradient name ≠ naming.gradient other

variable {block : Block} {settings : Settings} {roles : Roles}

/-- Valid settings give proper names to every block whose own name is an identifier. -/
lemma isProper_of_valid (hsettings : settings.Valid)
    (hblock : isIdentifier block.name.toList = true) : (Naming.of block settings).IsProper where
  inplace := isIdentifier_concat_of_letter hblock hsettings.inplaceSuffix.2
  backward := isIdentifier_concat hsettings.backwardStart hblock
  cotangent := hsettings.cotangentName
  gradient _ hname := isIdentifier_concat hsettings.gradientStart hname
  inplace_ne h := hsettings.inplaceSuffix.1 (String.append_eq_left_iff.mp h)
  backward_ne h :=
    ne_empty_of_isIdentifier hsettings.backwardStart (String.append_eq_right_iff.mp h)
  gradient_ne _ _ := (gradient_injective _).ne

/-- Of proper names for a block, all that stand beside its variables are identifiers if those
are. -/
lemma IsProper.isIdentifier_of_mem (h : (Naming.of block settings).IsProper)
    (hinputs : ∀ input ∈ roles.inputs, isIdentifier input.toList = true) :
    ∀ name ∈ generatedNames block roles settings, isIdentifier name.toList = true := by
  intro name hname
  rcases List.mem_append.mp hname with hbeside | hgradient
  · simp only [List.mem_cons, List.not_mem_nil, or_false] at hbeside
    rcases hbeside with rfl | rfl | rfl
    · exact h.inplace
    · exact h.backward
    · exact h.cotangent
  · obtain ⟨input, hinput, rfl⟩ := List.mem_map.mp hgradient
    exact h.gradient input (hinputs input hinput)

/-- **Accepted settings make proper names** for every block whose own name is an identifier.  So all
names beside its variables are identifiers, whatever roles the variables have. -/
theorem isProper_of_accepted (hsettings : settings.Accepted)
    (hblock : isIdentifier block.name.toList = true) :
    (Naming.of block settings).IsProper ∧
      ∀ roles : Roles, (∀ input ∈ roles.inputs, isIdentifier input.toList = true) →
        ∀ name ∈ generatedNames block roles settings, isIdentifier name.toList = true :=
  have hproper := isProper_of_valid hsettings.valid hblock
  ⟨hproper, fun _ hinputs => hproper.isIdentifier_of_mem hinputs⟩

attribute [local instance] Template.Runtime.bare

/-- An end that is no identifier by itself, and letters beyond the first code points. -/
theorem isProper_of_accepted_middleDot :
    let settings := { Settings.default with inplaceSuffix := "\u00b72", gradientStart := "\u03b4" }
    let block : Block := ⟨"x[0] = \u03bb\n".toList, "\u01921", .ofNames ["x", "\u03bb"] .array, false⟩
    Settings.ofSources [[("inplace_suffix", .text "\u00b72"),
      ("gradient_prefix", .text "\u03b4")]] = .ok settings ∧
    isIdentifier settings.inplaceSuffix.toList = false ∧
    (Naming.of block settings).IsProper ∧
    ∃ artifacts, (synthesize block [] settings).result = .ok artifacts ∧
      generatedNames block artifacts.roles settings =
        ["\u01921\u00b72", "back_\u01921", "cotangents", "\u03b4x", "\u03b4\u03bb"] ∧
      ∀ name ∈ generatedNames block artifacts.roles settings, isIdentifier name.toList = true := by
  intro settings block
  have hsettings : Settings.ofSources [[("inplace_suffix", .text "\u00b72"),
      ("gradient_prefix", .text "\u03b4")]] = .ok settings := by decide +kernel
  obtain ⟨hproper, hnames⟩ := isProper_of_accepted (Settings.accepted_of_ofSources hsettings)
    (show isIdentifier block.name.toList = true by decide +kernel)
  obtain ⟨artifacts, hartifacts, hinputs, hgenerated⟩ : ∃ artifacts,
      (synthesize block [] settings).result = .ok artifacts ∧
      (∀ input ∈ artifacts.roles.inputs, isIdentifier input.toList = true) ∧
      generatedNames block artifacts.roles settings =
        ["\u01921\u00b72", "back_\u01921", "cotangents", "\u03b4x", "\u03b4\u03bb"] :=
    exists_ok_of_decide (by decide +kernel)
  exact ⟨hsettings, by decide +kernel, hproper, artifacts, hartifacts, hgenerated,
    hnames artifacts.roles hinputs⟩

end Naming

end AdjointSynthesis

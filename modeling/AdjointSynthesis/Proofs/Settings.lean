import AdjointSynthesis.Settings.Basic
import Mathlib.Tactic.Common

/-!
# Settings that a run gets

Settings are resolved from sources one by one, and each value is checked unless it is the default.
The settings as a whole pass all checks all the same.

* `Setting.check_check`: what a check lets through, it lets through again.
* `Setting.check_default`: every default passes its own check.
* `Settings.accepted_of_ofSources`: so do all settings that some sources give.
-/

namespace AdjointSynthesis

/-! ## Single settings -/

namespace Setting

/-- A known level of records is written in capital letters. -/
lemma upperCase_level {level : String} (h : (levels.lookup level).isSome) :
    Text.upperCase level = level := by
  have hknown : ∀ entry ∈ levels, Text.upperCase entry.1 = entry.1 := by decide +kernel
  obtain ⟨weight, hweight⟩ := Option.isSome_iff_exists.mp h
  obtain ⟨before, behind, hlevels, -⟩ := List.lookup_eq_some_iff.mp hweight
  exact hknown (level, weight) (hlevels ▸ List.mem_append_right _ List.mem_cons_self)

/-- **Checks only put levels in capital letters.**  What a check lets through, it lets through
again as it is. -/
lemma check_check {setting : Setting} {given value : String}
    (h : setting.check given = .ok value) : setting.check value = .ok value := by
  have same {found : String} (hcheck : setting.check given = .ok found) (hfound : found = given) :
      setting.check found = .ok found := by
    subst hfound
    exact hcheck
  have condition {test : Prop} [Decidable test] {problem : Problem}
      (hcheck : (if test then .ok given else .error problem : Except Problem String) = .ok value) :
      value = given := by
    split at hcheck
    · exact (Except.ok.inj hcheck).symm
    · cases hcheck
  cases setting with
  -- conditions on the text, which stays as it is
  | gradientStart | backwardStart | cotangentName | inplaceSuffix | indent | densifyTemplate
  | noGradientTemplate => exact same h (condition h)
  | registerDecorator | secondaryEntry | shadowWrapper | activeWrapper | inactiveWrapper
  | returnActivity | zeroLiteral => exact same h (Except.ok.inj h).symm
  | logLevel =>
    -- the one check that changes the text
    simp only [check] at h ⊢
    split at h
    · next hlevel =>
      cases h
      rw [upperCase_level hlevel, if_pos hlevel]
    · cases h

/-- Every default passes its own check. -/
lemma check_default {setting : Setting} {value : String} (h : setting.default? = some value) :
    setting.check value = .ok value := by
  cases setting <;> cases h <;> decide +kernel

variable {sources : List Source} {setting : Setting}

/-- The value that a setting gets passes its check. -/
lemma check_of_value {value : String} (h : setting.value sources = .ok (some value)) :
    setting.check value = .ok value := by
  unfold Setting.value at h
  split at h
  · exact check_default (Except.ok.inj h)
  · split at h
    · next hcheck =>
      cases h
      exact check_check hcheck
    · cases h
  · split at h <;> cases h
  · cases h

/-- Only the return activity may be missing. -/
lemma eq_returnActivity_of_value (h : setting.value sources = .ok none) :
    setting = .returnActivity := by
  unfold Setting.value at h
  split at h
  · cases setting with
    | returnActivity => rfl
    | _ => cases h
  · split at h <;> cases h
  · split at h
    · assumption
    · cases h
  · cases h

lemma mem_all (setting : Setting) : setting ∈ all := by cases setting <;> decide

/-- The refusal of a setting, unless it has a value. -/
def refusal? (sources : List Source) (setting : Setting) : Option Refusal :=
  match setting.value sources with
  | .ok _ => none
  | .error refusal => some refusal

lemma refusal?_eq_some_iff {refusal : Refusal} :
    setting.refusal? sources = some refusal ↔ setting.value sources = .error refusal := by
  unfold refusal?
  split <;> simp_all

lemma refusal?_eq_none_iff :
    setting.refusal? sources = none ↔ ∃ value, setting.value sources = .ok value := by
  unfold refusal?
  split <;> simp_all

end Setting

/-! ## All settings -/

namespace Settings

/-- Whether all settings pass their checks. -/
def Accepted (settings : Settings) : Prop :=
  ∀ setting value, settings.get setting = some value → setting.check value = .ok value

lemma get_ofValues {value : Setting → Option String} {setting : Setting}
    (h : value setting = none → setting = .returnActivity) :
    (ofValues value).get setting = value setting := by
  have given {found : Option String} (hfound : found ≠ none) : some (found.getD "") = found := by
    cases found with
    | none => exact absurd rfl hfound
    | some => rfl
  cases setting with
  | returnActivity => rfl
  | _ => exact given fun hnone => nomatch h hnone

lemma ofSources_eq (sources : List Source) : ofSources sources =
    if (Setting.all.filterMap (Setting.refusal? sources)).isEmpty then
      .ok (ofValues fun setting =>
        match setting.value sources with
        | .ok value => value
        | .error _ => none)
    else .error (Setting.all.filterMap (Setting.refusal? sources)) := rfl

/-- Sources give settings only if they give each of them. -/
lemma ofSources_eq_ok {sources : List Source} {settings : Settings}
    (h : ofSources sources = .ok settings) (setting : Setting) :
    setting.value sources = .ok (settings.get setting) := by
  rw [ofSources_eq] at h
  split at h
  · next hrefusals =>
    -- a setting that is missing among the refusals has a value
    have hvalue (setting : Setting) : ∃ value, setting.value sources = .ok value :=
      Setting.refusal?_eq_none_iff.mp
        (List.filterMap_eq_nil_iff.mp (List.isEmpty_iff.mp hrefusals) setting setting.mem_all)
    choose value hvalue using hvalue
    cases h
    rw [get_ofValues]
    · simp only [hvalue]
    · simp only [hvalue]
      intro hnone
      exact Setting.eq_returnActivity_of_value (hnone ▸ hvalue setting)
  · cases h

/-- **The settings that some sources give pass all checks**, those that no source gives as well. -/
theorem accepted_of_ofSources {sources : List Source} {settings : Settings}
    (h : ofSources sources = .ok settings) : settings.Accepted := by
  intro setting value hget
  exact Setting.check_of_value ((ofSources_eq_ok h setting).trans (congrArg Except.ok hget))

end Settings

end AdjointSynthesis

import AdjointSynthesis.Proofs.Emission
import AdjointSynthesis.Proofs.Usage

/-!
# Why steps fail

Each step of a synthesis fails for reasons of its own, so a failure tells the step that it comes
from.

* `readProgram_eq_error`, `Usage.ofText_eq_error`, `splitRoles_eq_error`: the failures of a step.
* `synthesize_eq_nameCollision_iff`: when a variable is in the way of a generated name.
-/

namespace AdjointSynthesis

variable {block : Block} {constants : List String} {settings : Settings} {failure : Failure}

/-! ## The failures of a step -/

lemma readProgram_eq_error {part : Part} {text : List Char}
    (h : readProgram part text = .error failure) :
    failure = .nullCharacter ∨ ∃ fault, failure = .broken part fault := by
  rw [readProgram] at h
  split at h
  · exact .inl (Except.error.inj h).symm
  · cases hread : Code.read text with
    | ok statements =>
      rw [hread] at h
      cases h
    | error fault =>
      rw [hread] at h
      exact .inr ⟨fault, (Except.error.inj h).symm⟩

lemma writesTo_eq_error {lines : List (List Char)} {targets : List Code.Expr}
    (h : writesTo lines targets = .error failure) : failure = .missingLine := by
  induction targets with
  | nil => cases h
  | cons target rest ih =>
    rcases bind_eq_error_iff.mp h with h | ⟨_, -, h⟩
    · rw [writeTo?] at h
      split at h
      · cases h
      · split at h
        · exact (Except.error.inj h).symm
        · cases h
        · cases h
    · rcases bind_eq_error_iff.mp h with h | ⟨_, -, h⟩
      · exact ih h
      · cases h

lemma Usage.ofText_eq_error {source : List Char} (h : Usage.ofText source = .error failure) :
    readProgram .block (Text.dedent source) = .error failure ∨ failure = .missingLine := by
  rcases bind_eq_error_iff.mp h with h | ⟨statements, -, h⟩
  · exact .inl h
  · rcases bind_eq_error_iff.mp h with h | ⟨_, -, h⟩
    · exact .inr (writesTo_eq_error h)
    · cases h

lemma splitRoles_eq_error {usage : Usage} (h : splitRoles block constants usage = .error failure) :
    (∃ referenced, failure = .noMutation block.name referenced) ∨
      (∃ names, failure = .mutatedConstants names) ∨ ∃ names, failure = .immutableTargets names := by
  rw [splitRoles_eq] at h
  dsimp only at h
  split at h
  · exact .inl ⟨_, (Except.error.inj h).symm⟩
  · split at h
    · exact .inr (.inl ⟨_, (Except.error.inj h).symm⟩)
    · split at h
      · exact .inr (.inr ⟨_, (Except.error.inj h).symm⟩)
      · cases h

/-! ## Where clashes are reported -/

/-- **When a clash is reported**: the block has roles, and some of its variables are named like
something generated; these are reported, in the order of the inputs. -/
theorem synthesize_eq_nameCollision_iff [Template.Runtime] {function : String} {names : List String} :
    (synthesize block constants settings).result = .error (.nameCollision function names) ↔
      ∃ usage roles, block.usage = .ok usage ∧ splitRoles block constants usage = .ok roles ∧
        function = block.name ∧ names = clashes block roles settings ∧ names ≠ [] := by
  rw [synthesize_eq_error_iff]
  constructor
  · -- no other step fails in this way
    rintro (h | ⟨usage, husage, h | ⟨roles, hsplit, ⟨hclashes, h⟩ | ⟨-, h⟩⟩⟩)
    · rcases Usage.ofText_eq_error h with h | h
      · rcases readProgram_eq_error h with h | ⟨_, h⟩ <;> cases h
      · cases h
    · rcases splitRoles_eq_error h with ⟨_, h⟩ | ⟨_, h⟩ | ⟨_, h⟩ <;> cases h
    · cases h
      exact ⟨usage, roles, husage, hsplit, rfl, rfl, hclashes⟩
    · obtain ⟨_, h⟩ := adjointRule_eq_error (splitRoles_eq_ok hsplit).2 h
      cases h
  · rintro ⟨usage, roles, husage, hsplit, rfl, rfl, hclashes⟩
    exact .inr ⟨usage, husage, .inr ⟨roles, hsplit, .inl ⟨hclashes, rfl⟩⟩⟩

end AdjointSynthesis

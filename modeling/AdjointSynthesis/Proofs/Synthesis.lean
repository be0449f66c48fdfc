import AdjointSynthesis.Emission
import Mathlib.Tactic.Common

/-!
# What a synthesis goes through

The steps of a synthesis without the records they leave: the block of a text, the roles of its
variables, the search for variables that are named like something generated, and the adjoint rule.

* `Block.ofText_eq_ok_iff`, `Block.ofText_eq_error_iff`: when a text yields a block, and why not.
* `result_synthesize`: the steps in a row.
* `synthesize_eq_ok_iff`: when the definitions are written, and which ones.
* `synthesize_eq_error_iff`: why they are not.
-/

namespace AdjointSynthesis

/-! ## Steps without records -/

namespace Logged

variable {α β : Type}

@[simp] lemma result_pure (value : α) : (pure value : Logged α).result = .ok value := rfl

@[simp] lemma result_fail (failure : Failure) :
    (Logged.fail failure : Logged α).result = .error failure := rfl

@[simp] lemma result_lift (result : Except Failure α) :
    (liftM result : Logged α).result = result := rfl

@[simp] lemma result_record (level : Level) (origin : Origin) (message : String) :
    (Logged.record level origin message).result = .ok () := rfl

@[simp] lemma result_bind (step : Logged α) (next : α → Logged β) :
    (step >>= next).result = step.result >>= fun value => (next value).result := by
  change (Logged.bind step next).result = _
  unfold Logged.bind
  cases step.result <;> rfl

end Logged

lemma bind_eq_ok_iff {ε α β : Type} {step : Except ε α} {next : α → Except ε β} {value : β} :
    step >>= next = .ok value ↔ ∃ found, step = .ok found ∧ next found = .ok value := by
  cases step with
  | ok found => exact ⟨fun h => ⟨found, rfl, h⟩, fun ⟨_, h, hnext⟩ => by cases h; exact hnext⟩
  | error failure => exact ⟨nofun, fun ⟨_, h, _⟩ => nomatch h⟩

lemma bind_eq_error_iff {ε α β : Type} {step : Except ε α} {next : α → Except ε β} {failure : ε} :
    step >>= next = .error failure ↔
      step = .error failure ∨ ∃ found, step = .ok found ∧ next found = .error failure := by
  cases step with
  | ok found =>
    refine ⟨fun h => .inr ⟨found, rfl, h⟩, ?_⟩
    rintro (h | ⟨_, h, hnext⟩)
    · cases h
    · cases h
      exact hnext
  | error other =>
    refine ⟨fun h => .inl (by cases h; rfl), ?_⟩
    rintro (h | ⟨_, h, -⟩)
    · cases h
      rfl
    · cases h

lemma exists_ok_of_decide {ε α : Type} {result : Except ε α} {P : α → Prop} [DecidablePred P]
    (h : (match result with | .ok value => decide (P value) | .error _ => false) = true) :
    ∃ value, result = .ok value ∧ P value := by
  cases result with
  | ok value => exact ⟨value, rfl, of_decide_eq_true h⟩
  | error => cases h

lemma forall_ok_of_decide {ε α : Type} {result : Except ε α} {P : α → Prop} [DecidablePred P]
    (h : (match result with | .ok value => decide (P value) | .error _ => true) = true) :
    ∀ value, result = .ok value → P value := by
  rintro value rfl
  exact of_decide_eq_true h

lemma mapM_ne_error {ε α β : Type} {f : α → Except ε β} {failure : ε}
    (h : ∀ item, f item ≠ .error failure) (items : List α) : items.mapM f ≠ .error failure := by
  induction items with
  | nil => exact nofun
  | cons item rest ih =>
    rw [List.mapM_cons]
    intro hfails
    rcases bind_eq_error_iff.mp hfails with hitem | ⟨_, -, hrest⟩
    · exact h item hitem
    · rcases bind_eq_error_iff.mp hrest with hrest | ⟨_, -, hpure⟩
      · exact ih hrest
      · cases hpure

/-! ## Blocks of texts -/

section
variable {source : List Char} {scope : Scope} {given : Option String}

/-- **When a text yields a block, and which one**: it can be cut open, and there is a name for it that
is an identifier. -/
theorem Block.ofText_eq_ok_iff {block : Block} : Block.ofText source scope given = .ok block ↔
    ∃ definition name, Definition.ofText source = .ok definition ∧
      chosenName given definition.name = some name ∧ Text.isIdentifier name.toList = true ∧
      block = ⟨definition.body, name, scope, false⟩ := by
  rw [Block.ofText, bind_eq_ok_iff]
  refine exists_congr fun definition => ?_
  constructor
  · rintro ⟨hdefinition, h⟩
    split at h
    · cases h
    · next name hname =>
      split at h
      · next hidentifier => exact ⟨name, hdefinition, hname, hidentifier, (Except.ok.inj h).symm⟩
      · cases h
  · rintro ⟨name, hdefinition, hname, hidentifier, rfl⟩
    rw [hname]
    exact ⟨hdefinition, if_pos hidentifier⟩

/-- **Why a text yields no block.** -/
theorem Block.ofText_eq_error_iff {failure : Failure} :
    Block.ofText source scope given = .error failure ↔
      Definition.ofText source = .error failure ∨
        ∃ definition, Definition.ofText source = .ok definition ∧
          (chosenName given definition.name = none ∧ failure = .missingName ∨
            ∃ name, chosenName given definition.name = some name ∧
              Text.isIdentifier name.toList = false ∧ failure = .badName name) := by
  rw [Block.ofText, bind_eq_error_iff]
  refine or_congr_right (exists_congr fun definition => and_congr_right fun _ => ?_)
  constructor
  · intro h
    split at h
    · next hname => exact .inl ⟨hname, (Except.error.inj h).symm⟩
    · next name hname =>
      split at h
      · cases h
      · next hidentifier =>
        exact .inr ⟨name, hname, Bool.eq_false_iff.mpr hidentifier, (Except.error.inj h).symm⟩
  · rintro (⟨hname, rfl⟩ | ⟨name, hname, hidentifier, rfl⟩)
    · rw [hname]
      rfl
    · rw [hname]
      exact if_neg (Bool.eq_false_iff.mp hidentifier)

end

/-! ## The steps of a synthesis -/

section
variable {block : Block} {constants : List String} {settings : Settings}

/-- The variables of a block that are named like something generated for it. -/
def clashes (block : Block) (roles : Roles) (settings : Settings) : List String :=
  roles.inputs.filter (generatedNames block roles settings).contains

lemma result_ofBlock (block : Block) (constants : List String) :
    (Roles.ofBlock block constants).result = block.usage >>= splitRoles block constants := by
  simp only [Roles.ofBlock, Roles.ofUsage, Logged.result_bind, Logged.result_lift,
    Logged.result_record, Logged.result_pure]
  refine congrArg (block.usage >>= ·) (funext fun usage => ?_)
  cases splitRoles block constants usage <;> rfl

variable [Template.Runtime]

/-- **A synthesis finds the roles, then looks for clashes, then writes the adjoint rule.** -/
theorem result_synthesize (block : Block) (constants : List String) (settings : Settings) :
    (synthesize block constants settings).result = (do
      let usage ← block.usage
      let roles ← splitRoles block constants usage
      if clashes block roles settings = [] then
        let adjoint ← adjointRule block roles settings
        return {
          name := block.name
          inplace := inplaceForm block roles settings
          returning := returningForm block roles settings
          adjoint
          roles }
      else throw (.nameCollision block.name (clashes block roles settings))) := by
  rw [synthesize, Logged.result_bind, result_ofBlock]
  cases block.usage with
  | error => rfl
  | ok usage =>
    refine congrArg (splitRoles block constants usage >>= ·) (funext fun roles => ?_)
    have hclashes : roles.inputs.filter (generatedNames block roles settings).contains =
        clashes block roles settings := rfl
    dsimp only
    rw [hclashes]
    by_cases h : clashes block roles settings = []
    · rw [if_neg (by simp [h]), if_pos h]
      split
      · rw [Logged.result_bind]
        cases adjointRule block roles settings <;> rfl
      · cases adjointRule block roles settings <;> rfl
    · rw [if_pos (by simp [h]), if_neg h]
      rfl

/-- **When definitions are written**: the block has roles, no variable clashes, and the adjoint rule
can be written. -/
theorem synthesize_eq_ok_iff {artifacts : Artifacts} :
    (synthesize block constants settings).result = .ok artifacts ↔
      ∃ usage roles adjoint, block.usage = .ok usage ∧ splitRoles block constants usage = .ok roles ∧
        clashes block roles settings = [] ∧ adjointRule block roles settings = .ok adjoint ∧
        artifacts = ⟨block.name, inplaceForm block roles settings,
          returningForm block roles settings, adjoint, roles⟩ := by
  rw [result_synthesize]
  constructor
  · intro h
    obtain ⟨usage, husage, h⟩ := bind_eq_ok_iff.mp h
    obtain ⟨roles, hsplit, h⟩ := bind_eq_ok_iff.mp h
    split at h
    · next hclashes =>
      obtain ⟨adjoint, hadjoint, h⟩ := bind_eq_ok_iff.mp h
      exact ⟨usage, roles, adjoint, husage, hsplit, hclashes, hadjoint, (Except.ok.inj h).symm⟩
    · cases h
  · rintro ⟨usage, roles, adjoint, husage, hsplit, hclashes, hadjoint, rfl⟩
    refine bind_eq_ok_iff.mpr ⟨usage, husage, ?_⟩
    refine bind_eq_ok_iff.mpr ⟨roles, hsplit, ?_⟩
    rw [if_pos hclashes, hadjoint]
    rfl

/-- **Why definitions are not written**: the text has no usage, the variables are not split, some of
them clash, or the adjoint rule cannot be written. -/
theorem synthesize_eq_error_iff {failure : Failure} :
    (synthesize block constants settings).result = .error failure ↔
      block.usage = .error failure ∨ ∃ usage, block.usage = .ok usage ∧
        (splitRoles block constants usage = .error failure ∨
          ∃ roles, splitRoles block constants usage = .ok roles ∧
            (clashes block roles settings ≠ [] ∧
                failure = .nameCollision block.name (clashes block roles settings) ∨
              clashes block roles settings = [] ∧
                adjointRule block roles settings = .error failure)) := by
  rw [result_synthesize, bind_eq_error_iff]
  refine or_congr_right (exists_congr fun usage => and_congr_right fun _ => ?_)
  rw [bind_eq_error_iff]
  refine or_congr_right (exists_congr fun roles => and_congr_right fun _ => ?_)
  split
  · next hclashes =>
    rw [bind_eq_error_iff]
    constructor
    · rintro (h | ⟨_, -, h⟩)
      · exact .inr ⟨hclashes, h⟩
      · cases h
    · rintro (⟨hne, -⟩ | ⟨-, h⟩)
      · exact absurd hclashes hne
      · exact .inl h
  · next hclashes =>
    constructor
    · intro h
      cases h
      exact .inl ⟨hclashes, rfl⟩
    · rintro (⟨-, rfl⟩ | ⟨h, -⟩)
      · rfl
      · exact absurd h hclashes

end

end AdjointSynthesis

import AdjointSynthesis.Proofs.Shapes
import AdjointSynthesis.Proofs.Templates

/-!
# Scopes in another order

Two blocks count as the same when their scopes bind the same variables in different orders, although
everything that is written for a block follows the order of its scope.  This file shows that the
order is all that can differ.

* `Bindings.same_iff`: the same bindings are the same entries in another order.
* `OutcomesMatch`: two steps that fail in the same way, or yield values that are alike.
* `splitRoles_outcomesMatch`, `synthesize_outcomesMatch`: the steps of a synthesis, one after the
  other.
* `synthesize_of_same`: what all this comes to for blocks that are the same.
-/

namespace AdjointSynthesis

/-! ## The same bindings -/

namespace Bindings

variable {β : Type} {bindings other : Bindings β}

lemma lookup_eq_some_iff_mem {entries : List (String × β)} (h : (entries.map Prod.fst).Nodup)
    {name : String} {value : β} : entries.lookup name = some value ↔ (name, value) ∈ entries := by
  induction entries with
  | nil => simp
  | cons entry rest ih =>
    obtain ⟨key, found⟩ := entry
    rw [List.map_cons, List.nodup_cons] at h
    rw [List.lookup_cons, List.mem_cons]
    by_cases hkey : name = key
    · subst hkey
      have hrest : (name, value) ∉ rest := by
        intro hmem
        exact h.1 (List.mem_map.mpr ⟨(name, value), hmem, rfl⟩)
      simp [hrest, eq_comm]
    · have hother : (name, value) ≠ (key, found) := fun heq => hkey (congrArg Prod.fst heq)
      rw [beq_false_of_ne hkey, or_iff_right hother]
      exact ih h.2

/-- The same bindings are the same entries in another order. -/
lemma same_iff [DecidableEq β] :
    bindings.same other = true ↔ bindings.entries.Perm other.entries := by
  have hnodup (b : Bindings β) : b.entries.Nodup := .of_map _ b.distinct
  rw [List.perm_ext_iff_of_nodup (hnodup bindings) (hnodup other)]
  simp only [same, Bool.and_eq_true, List.all_eq_true, List.contains_iff_mem]
  constructor
  · rintro ⟨h, h'⟩ entry
    exact ⟨h entry, h' entry⟩
  · intro h
    exact ⟨fun entry => (h entry).mp, fun entry => (h entry).mpr⟩

/-- What a name is bound to does not depend on where it stands. -/
lemma get?_eq_of_perm (h : bindings.entries.Perm other.entries) (name : String) :
    bindings.get? name = other.get? name := by
  refine Option.ext fun value => ?_
  rw [get?, get?, lookup_eq_some_iff_mem bindings.distinct, lookup_eq_some_iff_mem other.distinct,
    h.mem_iff]

end Bindings

/-- **Blocks are the same** if they agree but for the order of their scopes. -/
lemma Block.same_iff {block other : Block} : block.same other = true ↔
    block.text = other.text ∧ block.name = other.name ∧
      block.scope.entries.Perm other.scope.entries ∧ block.isDegraded = other.isDegraded := by
  simp only [Block.same, Bool.and_eq_true, beq_iff_eq, Bindings.same_iff, and_assoc]

/-! ## Outcomes that match -/

/-- Whether two failures are of one sort and name the same variables, in any order. -/
inductive Failure.SameUpToOrder : Failure → Failure → Prop where
  | refl (failure : Failure) : SameUpToOrder failure failure
  | noMutation (function : String) {names others : List String} (h : names.Perm others) :
    SameUpToOrder (.noMutation function names) (.noMutation function others)
  | mutatedConstants {names others : List String} (h : names.Perm others) :
    SameUpToOrder (.mutatedConstants names) (.mutatedConstants others)
  | immutableTargets {names others : List String} (h : names.Perm others) :
    SameUpToOrder (.immutableTargets names) (.immutableTargets others)
  | nameCollision (function : String) {names others : List String} (h : names.Perm others) :
    SameUpToOrder (.nameCollision function names) (.nameCollision function others)

/-- Whether two steps fail in the same way up to the order of names, or yield values that are
alike. -/
inductive OutcomesMatch {α : Type} (alike : α → α → Prop) :
    Except Failure α → Except Failure α → Prop where
  | failed {failure other : Failure} (h : failure.SameUpToOrder other) :
    OutcomesMatch alike (.error failure) (.error other)
  | succeeded {value other : α} (h : alike value other) :
    OutcomesMatch alike (.ok value) (.ok other)

namespace OutcomesMatch

variable {α β : Type} {alike : α → α → Prop} {step other : Except Failure α}

lemma bind {alikeNext : β → β → Prop} {next otherNext : α → Except Failure β}
    (h : OutcomesMatch alike step other)
    (hnext : ∀ value value', step = .ok value → other = .ok value' → alike value value' →
      OutcomesMatch alikeNext (next value) (otherNext value')) :
    OutcomesMatch alikeNext (step >>= next) (other >>= otherNext) := by
  cases h with
  | failed hfailure => exact .failed hfailure
  | succeeded hvalue => exact hnext _ _ rfl rfl hvalue

lemma mono {alike' : α → α → Prop} (h : OutcomesMatch alike step other)
    (himp : ∀ value value', step = .ok value → other = .ok value' → alike value value' →
      alike' value value') : OutcomesMatch alike' step other := by
  cases h with
  | failed hfailure => exact .failed hfailure
  | succeeded hvalue => exact .succeeded (himp _ _ rfl rfl hvalue)

end OutcomesMatch

/-! ## Roles -/

/-- Whether two splits hand the same variables to each role, in any order. -/
structure Roles.SameUpToOrder (roles other : Roles) : Prop where
  inputs : roles.inputs.Perm other.inputs
  mutated : roles.mutated.Perm other.mutated
  constant : roles.constant.Perm other.constant
  active : roles.active.Perm other.active

variable {block other : Block} {constants : List String} {usage : Usage} {settings : Settings}
  {roles otherRoles : Roles}

namespace Roles.SameUpToOrder

variable (h : roles.SameUpToOrder otherRoles)
include h

lemma role_eq (name : String) : roles.role name = otherRoles.role name := by
  rw [role, role, h.mutated.contains_eq, h.constant.contains_eq, h.active.contains_eq]

lemma returnedSlot_eq (naming : Naming) (settings : Settings) (name : String) :
    returnedSlot naming settings roles name = returnedSlot naming settings otherRoles name := by
  rw [returnedSlot, returnedSlot, h.constant.contains_eq]

/-- The same variables are in the way of generated names. -/
lemma clashes_perm (hname : block.name = other.name) (settings : Settings) :
    (clashes block roles settings).Perm (clashes other otherRoles settings) := by
  have hgenerated : (generatedNames block roles settings).Perm
      (generatedNames other otherRoles settings) := by
    rw [generatedNames, generatedNames, Naming.of, Naming.of, hname]
    exact (h.inputs.map _).append_left _
  have htest : (generatedNames block roles settings).contains =
      (generatedNames other otherRoles settings).contains :=
    funext fun name => hgenerated.contains_eq
  rw [clashes, clashes, htest]
  exact h.inputs.filter _

end Roles.SameUpToOrder

/-- A role is a test on single names, so each role keeps its variables. -/
lemma Usage.split_sameUpToOrder (hvisible : block.visible.Perm other.visible) :
    (usage.split block constants).SameUpToOrder (usage.split other constants) := by
  have hinputs : (usage.split block constants).inputs.Perm (usage.split other constants).inputs :=
    hvisible.filter _
  have hmutated : (usage.split block constants).mutated.Perm
      (usage.split other constants).mutated := hinputs.filter _
  refine ⟨hinputs, hmutated, hinputs.filter _, ?_⟩
  change ((usage.split block constants).inputs.filter fun name =>
      !(usage.split block constants).mutated.contains name && !constants.contains name).Perm
    (usage.split other constants).active
  simp only [hmutated.contains_eq]
  exact hinputs.filter _

/-- **A split follows the order of the scope in nothing but the order of its names**, also when it
is refused. -/
lemma splitRoles_outcomesMatch (hname : block.name = other.name)
    (hscope : block.scope.entries.Perm other.scope.entries) :
    OutcomesMatch Roles.SameUpToOrder (splitRoles block constants usage)
      (splitRoles other constants usage) := by
  have hsplit : (usage.split block constants).SameUpToOrder (usage.split other constants) :=
    Usage.split_sameUpToOrder (hscope.map Prod.fst)
  have hconflicts := hsplit.mutated.filter constants.contains
  have himmutable := hsplit.mutated.filter fun name =>
    other.scope.get? name == some .immutableArray
  rw [splitRoles_eq, splitRoles_eq]
  -- the grounds are tested for emptiness, and this is the same on both sides
  simp only [Bindings.get?_eq_of_perm hscope, hname, hsplit.mutated.isEmpty_eq,
    hconflicts.isEmpty_eq, himmutable.isEmpty_eq]
  split
  · exact .failed (.noMutation other.name hsplit.inputs)
  split
  · exact .failed (.mutatedConstants hconflicts)
  split
  · exact .failed (.immutableTargets himmutable)
  · exact .succeeded hsplit

/-! ## Definitions -/

/-- How the definitions of two blocks compare whose scopes are ordered differently. -/
structure Artifacts.SameUpToOrder (artifacts other : Artifacts) (naming : Naming)
    (settings : Settings) : Prop where
  name_eq : artifacts.name = other.name
  roles : artifacts.roles.SameUpToOrder other.roles
  role_eq : ∀ name, artifacts.roles.role name = other.roles.role name
  /-- Each adjoint rule returns a slot for each variable, in the order of its own inputs, -/
  returns : artifacts.Returns naming settings
  other_returns : other.Returns naming settings
  /-- and a variable has the same slot in both. -/
  slot_eq : ∀ name, returnedSlot naming settings artifacts.roles name =
    returnedSlot naming settings other.roles name

section
variable [Template.Runtime]
  (hdensify : settings.densifyTemplate = Settings.default.densifyTemplate)
  (hnoGradient : settings.noGradientTemplate = Settings.default.noGradientTemplate)
include hdensify hnoGradient

lemma exists_adjointRule_of_default (block : Block) (hroles : roles.Partitioned constants) :
    ∃ adjoint, adjointRule block roles settings = .ok adjoint := by
  have hsimple := simpleTemplates_of_eq_default hdensify hnoGradient
  have hdense : Setting.densifyTemplate.check settings.densifyTemplate =
      .ok Settings.default.densifyTemplate := by
    rw [hdensify]
    decide +kernel
  have hzeroed : Setting.noGradientTemplate.check settings.noGradientTemplate =
      .ok Settings.default.noGradientTemplate := by
    rw [hnoGradient]
    decide +kernel
  obtain ⟨_, _, hadjoint, -⟩ :=
    @adjointRule_of_simpleTemplates block _ _ _ _ hsimple _ _ hdense hzeroed hroles
  exact ⟨_, hadjoint⟩

/-- With templates that can always be filled in, the failures left are those that list variables,
and those of the text. -/
lemma synthesize_outcomesMatch (htext : block.text = other.text) (hname : block.name = other.name)
    (hscope : block.scope.entries.Perm other.scope.entries) :
    OutcomesMatch
      (fun artifacts otherArtifacts => artifacts.name = otherArtifacts.name ∧
        artifacts.roles.SameUpToOrder otherArtifacts.roles)
      (synthesize block constants settings).result
      (synthesize other constants settings).result := by
  have husage : other.usage = block.usage := congrArg Usage.ofText htext.symm
  rw [result_synthesize, result_synthesize, husage]
  cases block.usage with
  | error failure => exact .failed (.refl failure)
  | ok usage =>
    have hsplit : OutcomesMatch Roles.SameUpToOrder (splitRoles block constants usage)
      (splitRoles other constants usage) := splitRoles_outcomesMatch hname hscope
    refine hsplit.bind fun roles otherRoles hroles hotherRoles hsame => ?_
    have hclashes := hsame.clashes_perm hname settings
    by_cases hnone : clashes block roles settings = []
    · have hotherNone : clashes other otherRoles settings = [] :=
        List.nil_perm.mp (hnone ▸ hclashes)
      obtain ⟨adjoint, hadjoint⟩ :=
        exists_adjointRule_of_default hdensify hnoGradient block (splitRoles_eq_ok hroles).2
      obtain ⟨otherAdjoint, hotherAdjoint⟩ :=
        exists_adjointRule_of_default hdensify hnoGradient other (splitRoles_eq_ok hotherRoles).2
      rw [if_pos hnone, if_pos hotherNone, hadjoint, hotherAdjoint]
      exact .succeeded ⟨hname, hsame⟩
    · have hotherSome : clashes other otherRoles settings ≠ [] :=
        fun heq => hnone (List.perm_nil.mp (heq ▸ hclashes))
      rw [if_neg hnone, if_neg hotherSome, hname]
      exact .failed (.nameCollision other.name hclashes)

end

/-- A block of a registered shape is found at its position ever after. -/
lemma Registry.Holds.register_again {registry : Registry} {seen : List Block}
    (h : registry.Holds seen) (hshape : block.shape = other.shape) (between : List Block) :
    ∃ isNew position, (registry.register block).2.result = .ok ⟨isNew, position⟩ ∧
      (((registry.register block).1.registerAll between).1.register other).2.result =
        .ok ⟨false, position⟩ := by
  obtain ⟨hnext, position, hresult, first, hfirst, hfirstShape⟩ := h.register block
  have hlater := (hnext.registerAll between).1
  have hfound : ((registry.register block).1.registerAll between).1.position? other.visible =
      some position :=
    hlater.position?_eq_some_iff.mpr ⟨first,
      getElem?_of_grows (grows_registerAll _ between) hfirst, hfirstShape.trans hshape⟩
  exact ⟨_, position, hresult, (register_of_position? hfound).2⟩

/-- **The same blocks are treated alike**, with any constants and any settings that leave the
templates as they are.  Either both fail, in the same way and with the same names in some order; or
for both definitions are written, where each variable has the same role and the same slot.  And both
are one shape: whatever else is registered, the second is found where the first is. -/
theorem synthesize_of_same [Template.Runtime] (hsame : block.same other = true)
    (hdensify : settings.densifyTemplate = Settings.default.densifyTemplate)
    (hnoGradient : settings.noGradientTemplate = Settings.default.noGradientTemplate)
    (constants : List String) :
    OutcomesMatch
      (fun artifacts otherArtifacts =>
        artifacts.SameUpToOrder otherArtifacts (Naming.of block settings) settings)
      (synthesize block constants settings).result
      (synthesize other constants settings).result ∧
    block.shape = other.shape ∧
    ∀ before between : List Block, ∃ isNew position,
      let registry := (Registry.empty.registerAll before).1
      (registry.register block).2.result = .ok ⟨isNew, position⟩ ∧
        (((registry.register block).1.registerAll between).1.register other).2.result =
          .ok ⟨false, position⟩ := by
  obtain ⟨htext, hname, hscope, -⟩ := Block.same_iff.mp hsame
  have hshape : block.shape = other.shape :=
    List.toFinset_eq_of_perm _ _ (hscope.map Prod.fst)
  have hnaming : Naming.of other settings = Naming.of block settings := by
    rw [Naming.of, Naming.of, hname]
  refine ⟨?_, hshape, fun before between => ?_⟩
  · refine (synthesize_outcomesMatch hdensify hnoGradient htext hname hscope).mono ?_
    rintro artifacts otherArtifacts hresult hotherResult ⟨hnameEq, hroles⟩
    exact {
      name_eq := hnameEq
      roles := hroles
      role_eq := hroles.role_eq
      returns := returns_of_synthesize hresult
      other_returns := hnaming ▸ returns_of_synthesize hotherResult
      slot_eq := hroles.returnedSlot_eq _ settings }
  · exact (Registry.holds_empty.registerAll before).1.register_again hshape between

attribute [local instance] Template.Runtime.bare

/-- A block seen in two orders, with constants that it accepts and with some that it mutates. -/
theorem synthesize_of_same_two_orders :
    let text := "a[i] = val\nc[i] = a\n".toList
    let block : Block := ⟨text, "f",
      .ofList [("a", .array), ("b", .array), ("c", .array), ("i", .integer), ("val", .scalar)],
      false⟩
    let other : Block := ⟨text, "f",
      .ofList [("val", .scalar), ("c", .array), ("i", .integer), ("b", .array), ("a", .array)],
      false⟩
    let settings : Settings := { Settings.default with gradientStart := "g_", zeroLiteral := "0" }
    let alike (artifacts otherArtifacts : Artifacts) : Prop :=
      artifacts.SameUpToOrder otherArtifacts (Naming.of block settings) settings
    block.same other = true ∧
      (synthesize block ["i"] settings).result.isOk = true ∧
      OutcomesMatch alike (synthesize block ["i"] settings).result
        (synthesize other ["i"] settings).result ∧
      (synthesize block ["a", "c"] settings).result = .error (.mutatedConstants ["a", "c"]) ∧
      OutcomesMatch alike (synthesize block ["a", "c"] settings).result
        (synthesize other ["a", "c"] settings).result ∧
      block.shape = other.shape := by
  intro text block other settings alike
  have hsame : block.same other = true := by decide +kernel
  have hdensify : settings.densifyTemplate = Settings.default.densifyTemplate := rfl
  have hnoGradient : settings.noGradientTemplate = Settings.default.noGradientTemplate := rfl
  obtain ⟨haccepted, hshape, -⟩ := synthesize_of_same hsame hdensify hnoGradient ["i"]
  obtain ⟨hrefused, -⟩ := synthesize_of_same hsame hdensify hnoGradient ["a", "c"]
  exact ⟨hsame, by decide +kernel, haccepted, by decide +kernel, hrefused, hshape⟩

end AdjointSynthesis

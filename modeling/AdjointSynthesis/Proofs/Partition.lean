import AdjointSynthesis.Proofs.Synthesis
import Mathlib.Data.List.Nodup

/-!
# The split of the variables

A split hands every variable that a block refers to to one of three roles.  The usage that it goes
by need not be that of the block.

* `splitRoles_eq`: a split and the grounds on which it is refused, in their order.
* `splitRoles_eq_ok_iff`: when a split is allowed, and what it is then.
* `Roles.Partitioned`: every input has exactly one role, and the names of a role stand in the order
  of the inputs.
* `Roles.Splits`: how a split relates to the scope, the usage and the declared constants.
* `Roles.splits_of_result`: every split that is handed out is one.
-/

namespace AdjointSynthesis

variable {block : Block} {constants : List String} {usage : Usage} {roles : Roles} {name : String}

/-! ## What a split is -/

/-- The visible variables that a usage refers to, by their roles. -/
def Usage.split (usage : Usage) (block : Block) (constants : List String) : Roles :=
  let inputs := block.visible.filter usage.references
  let mutated := inputs.filter usage.mutates
  { inputs
    mutated
    constant := inputs.filter constants.contains
    active := inputs.filter fun name => !mutated.contains name && !constants.contains name }

/-- Whether the variables that a usage writes to may be written to. -/
structure Usage.Writable (usage : Usage) (block : Block) (constants : List String) : Prop where
  mutated_ne_nil : (usage.split block constants).mutated ≠ []
  undeclared : ∀ name ∈ (usage.split block constants).mutated, name ∉ constants
  mutable : ∀ name ∈ (usage.split block constants).mutated,
    block.scope.get? name ≠ some .immutableArray

lemma Usage.split_inputs_subset (usage : Usage) (block : Block) (constants : List String) :
    (usage.split block constants).inputs ⊆ usage.referenced :=
  fun _ hmem => List.contains_iff_mem.mp (List.mem_filter.mp hmem).2

/-- **A split is refused on three grounds**, which are looked at one after the other. -/
lemma splitRoles_eq (block : Block) (constants : List String) (usage : Usage) :
    splitRoles block constants usage =
      let roles := usage.split block constants
      let conflicts := roles.mutated.filter constants.contains
      let immutable := roles.mutated.filter fun name =>
        block.scope.get? name == some .immutableArray
      if roles.mutated.isEmpty then .error (.noMutation block.name roles.inputs)
      else if !conflicts.isEmpty then .error (.mutatedConstants conflicts)
      else if !immutable.isEmpty then .error (.immutableTargets immutable)
      else .ok roles := by
  unfold splitRoles Usage.split
  dsimp only
  split
  · rfl
  split
  · rfl
  split
  · rfl
  · rfl

/-- **When variables are split**: something is written to, and nothing that is written to is
declared constant or an immutable array. -/
theorem splitRoles_eq_ok_iff :
    splitRoles block constants usage = .ok roles ↔
      usage.Writable block constants ∧ roles = usage.split block constants := by
  rw [splitRoles_eq]
  dsimp only
  constructor
  · intro h
    split at h
    · cases h
    next hmutated =>
    split at h
    · cases h
    next hconflicts =>
    split at h
    · cases h
    next himmutable =>
    rw [List.isEmpty_iff] at hmutated
    rw [Bool.not_eq_true', Bool.not_eq_false, List.isEmpty_iff, List.filter_eq_nil_iff]
      at hconflicts himmutable
    refine ⟨⟨hmutated, fun name hmem hdeclared => ?_, fun name hmem hkind => ?_⟩,
      (Except.ok.inj h).symm⟩
    · exact hconflicts name hmem (List.contains_iff_mem.mpr hdeclared)
    · exact himmutable name hmem (beq_iff_eq.mpr hkind)
  · -- what a refusal would report is nothing
    rintro ⟨h, rfl⟩
    have hconflicts : (usage.split block constants).mutated.filter constants.contains = [] :=
      List.filter_eq_nil_iff.mpr fun name hmem hdeclared =>
        h.undeclared name hmem (List.contains_iff_mem.mp hdeclared)
    have himmutable : ((usage.split block constants).mutated.filter fun name =>
        block.scope.get? name == some .immutableArray) = [] :=
      List.filter_eq_nil_iff.mpr fun name hmem hkind => h.mutable name hmem (beq_iff_eq.mp hkind)
    rw [if_neg (by simpa using h.mutated_ne_nil), hconflicts, if_neg (by simp), himmutable,
      if_neg (by simp)]

/-! ## Every input has one role -/

/-- What the split of the variables guarantees. -/
structure Roles.Partitioned (roles : Roles) (constants : List String) : Prop where
  mutated_eq : roles.mutated = roles.inputs.filter roles.mutated.contains
  constant_eq : roles.constant = roles.inputs.filter constants.contains
  active_eq : roles.active =
    roles.inputs.filter fun name => !roles.mutated.contains name && !roles.constant.contains name
  mutated_not_constant : ∀ name ∈ roles.mutated, name ∉ roles.constant

lemma filter_contains_filter (items : List String) (test : String → Bool) :
    items.filter (items.filter test).contains = items.filter test := by
  refine List.filter_congr fun item hitem => ?_
  rw [Bool.eq_iff_iff, List.contains_iff_mem, List.mem_filter]
  exact and_iff_right hitem

/-- A split that is allowed gives every input one role. -/
lemma Usage.Writable.partitioned (h : usage.Writable block constants) :
    (usage.split block constants).Partitioned constants := by
  refine ⟨(filter_contains_filter _ _).symm, rfl, ?_, ?_⟩
  · refine List.filter_congr fun name hname => ?_
    have : (usage.split block constants).constant.contains name = constants.contains name := by
      rw [Bool.eq_iff_iff, List.contains_iff_mem]
      exact List.mem_filter.trans (and_iff_right hname)
    rw [this]
    rfl
  · intro name hmutated hconstant
    exact h.undeclared name hmutated
      (List.contains_iff_mem.mp (List.mem_filter.mp hconstant).2)

/-- A successful split takes the inputs from the names referred to, and every one has one role. -/
lemma splitRoles_eq_ok (h : splitRoles block constants usage = .ok roles) :
    roles.inputs = block.visible.filter usage.references ∧ roles.Partitioned constants := by
  obtain ⟨hwritable, rfl⟩ := splitRoles_eq_ok_iff.mp h
  exact ⟨rfl, hwritable.partitioned⟩

/-- The variables of a role. -/
def Roles.group (roles : Roles) : Role → List String
  | .mutated => roles.mutated
  | .constant => roles.constant
  | .active => roles.active

namespace Roles.Partitioned

variable {role other : Role}

lemma group_sublist (h : roles.Partitioned constants) (role : Role) :
    (roles.group role).Sublist roles.inputs := by
  cases role with
  | mutated =>
    rw [group, h.mutated_eq]
    exact List.filter_sublist
  | constant =>
    rw [group, h.constant_eq]
    exact List.filter_sublist
  | active =>
    rw [group, h.active_eq]
    exact List.filter_sublist

lemma mem_inputs_of_mutated (h : roles.Partitioned constants) (hname : name ∈ roles.mutated) :
    name ∈ roles.inputs :=
  (h.group_sublist .mutated).subset hname

lemma mem_inputs_of_active (h : roles.Partitioned constants) (hname : name ∈ roles.active) :
    name ∈ roles.inputs :=
  (h.group_sublist .active).subset hname

lemma mem_constant_iff (h : roles.Partitioned constants) :
    name ∈ roles.constant ↔ name ∈ roles.inputs ∧ name ∈ constants := by
  rw [h.constant_eq, List.mem_filter, List.contains_iff_mem]

lemma mem_active_iff (h : roles.Partitioned constants) (hname : name ∈ roles.inputs) :
    name ∈ roles.active ↔ name ∉ roles.mutated ∧ name ∉ roles.constant := by
  rw [h.active_eq, List.mem_filter]
  simp [hname]

/-- A look-up of a role finds the group that holds the variable: the groups that are looked at
before do not hold it. -/
lemma role_eq_ok_iff (h : roles.Partitioned constants) :
    roles.role name = .ok role ↔ name ∈ roles.group role := by
  have hnotMutated (hconstant : name ∈ roles.constant) : name ∉ roles.mutated :=
    fun hmutated => h.mutated_not_constant name hmutated hconstant
  have hactive (hactive : name ∈ roles.active) : name ∉ roles.mutated ∧ name ∉ roles.constant :=
    (h.mem_active_iff (h.mem_inputs_of_active hactive)).mp hactive
  unfold Roles.role
  simp only [List.contains_iff_mem]
  split_ifs with hm hc ha <;> cases role <;> simp only [group] <;> grind

lemma role_unique (h : roles.Partitioned constants) (hrole : name ∈ roles.group role)
    (hother : name ∈ roles.group other) : role = other :=
  Except.ok.inj ((h.role_eq_ok_iff.mpr hrole).symm.trans (h.role_eq_ok_iff.mpr hother))

lemma exists_role (h : roles.Partitioned constants) (hname : name ∈ roles.inputs) :
    ∃ role, name ∈ roles.group role := by
  by_cases hmutated : name ∈ roles.mutated
  · exact ⟨.mutated, hmutated⟩
  by_cases hconstant : name ∈ roles.constant
  · exact ⟨.constant, hconstant⟩
  · exact ⟨.active, (h.mem_active_iff hname).mpr ⟨hmutated, hconstant⟩⟩

lemma role_eq_error (h : roles.Partitioned constants) (hname : name ∉ roles.inputs) :
    roles.role name = .error (.unknownName name) := by
  have hgroup (role : Role) : name ∉ roles.group role :=
    fun hmem => hname ((h.group_sublist role).subset hmem)
  have hmutated : name ∉ roles.mutated := hgroup .mutated
  have hconstant : name ∉ roles.constant := hgroup .constant
  have hactive : name ∉ roles.active := hgroup .active
  unfold Roles.role
  rw [if_neg (mt List.contains_iff_mem.mp hmutated),
    if_neg (mt List.contains_iff_mem.mp hconstant), if_neg (mt List.contains_iff_mem.mp hactive)]

lemma disjoint_group (h : roles.Partitioned constants) (hne : role ≠ other) :
    (roles.group role).Disjoint (roles.group other) :=
  fun _ hrole hother => hne (h.role_unique hrole hother)

/-- The groups together hold every input once. -/
lemma perm_inputs (h : roles.Partitioned constants) (hnodup : roles.inputs.Nodup) :
    (roles.mutated ++ roles.constant ++ roles.active).Perm roles.inputs := by
  have hgroup (role : Role) : (roles.group role).Nodup := (h.group_sublist role).nodup hnodup
  have hmutated : (roles.mutated ++ roles.constant).Nodup :=
    List.Nodup.append (hgroup .mutated) (hgroup .constant)
      (h.disjoint_group (by decide : Role.mutated ≠ .constant))
  have hall : (roles.mutated ++ roles.constant ++ roles.active).Nodup := by
    refine List.Nodup.append hmutated (hgroup .active) (List.disjoint_append_left.mpr ⟨?_, ?_⟩)
    · exact h.disjoint_group (by decide : Role.mutated ≠ .active)
    · exact h.disjoint_group (by decide : Role.constant ≠ .active)
  -- neither side repeats a name, so it is enough that they hold the same names
  rw [List.perm_ext_iff_of_nodup hall hnodup]
  intro name
  simp only [List.mem_append]
  constructor
  · rintro ((hmem | hmem) | hmem)
    · exact (h.group_sublist .mutated).subset hmem
    · exact (h.group_sublist .constant).subset hmem
    · exact (h.group_sublist .active).subset hmem
  · intro hmem
    obtain ⟨role, hrole⟩ := h.exists_role hmem
    cases role with
    | mutated => exact .inl (.inl hrole)
    | constant => exact .inl (.inr hrole)
    | active => exact .inr hrole

end Roles.Partitioned

lemma partitioned_of_synthesize [Template.Runtime] {settings : Settings} {artifacts : Artifacts}
    (h : (synthesize block constants settings).result = .ok artifacts) :
    artifacts.roles.Partitioned constants := by
  obtain ⟨_, roles, _, -, hsplit, -, -, rfl⟩ := synthesize_eq_ok_iff.mp h
  exact (splitRoles_eq_ok hsplit).2

/-! ## What every split guarantees -/

/-- How a split relates to the scope of a block, a usage and the declared constants. -/
structure Roles.Splits (roles : Roles) (block : Block) (constants : List String) (usage : Usage) :
    Prop where
  /-- The inputs are the visible variables that are referred to, in the order of the scope. -/
  inputs_eq : roles.inputs = block.visible.filter usage.referenced.contains
  inputs_nodup : roles.inputs.Nodup
  /-- The variables of a role stand in the order of the inputs. -/
  ordered : ∀ role, (roles.group role).Sublist roles.inputs
  disjoint : ∀ role other, role ≠ other → (roles.group role).Disjoint (roles.group other)
  /-- The three groups together hold every input once. -/
  whole : (roles.mutated ++ roles.constant ++ roles.active).Perm roles.inputs
  mutated_ne_nil : roles.mutated ≠ []
  mutated_iff : ∀ name, name ∈ roles.mutated ↔ name ∈ roles.inputs ∧ name ∈ usage.mutated
  mutated_undeclared : ∀ name ∈ roles.mutated, name ∉ constants
  mutated_mutable : ∀ name ∈ roles.mutated, block.scope.get? name ≠ some .immutableArray
  constant_iff : ∀ name, name ∈ roles.constant ↔ name ∈ roles.inputs ∧ name ∈ constants
  /-- The inputs have a role each, that of the only group that holds them. -/
  role_of_input : ∀ name ∈ roles.inputs,
    ∃! role, name ∈ roles.group role ∧ roles.role name = .ok role
  /-- Nothing else has a role. -/
  role_of_other : ∀ name, name ∉ roles.inputs → roles.role name = .error (.unknownName name)

lemma splits_of_splitRoles (h : splitRoles block constants usage = .ok roles) :
    roles.Splits block constants usage := by
  obtain ⟨hinputs, hroles⟩ := splitRoles_eq_ok h
  obtain ⟨hwritable, rfl⟩ := splitRoles_eq_ok_iff.mp h
  have hnodup : (usage.split block constants).inputs.Nodup :=
    (Bindings.nodup_names block.scope).filter _
  refine ⟨hinputs, hnodup, hroles.group_sublist, fun _ _ => hroles.disjoint_group,
    hroles.perm_inputs hnodup, hwritable.mutated_ne_nil, fun name => ?_, hwritable.undeclared,
    hwritable.mutable, fun name => hroles.mem_constant_iff, fun name hname => ?_,
    fun name => hroles.role_eq_error⟩
  · exact List.mem_filter.trans (and_congr_right fun _ => List.contains_iff_mem)
  · obtain ⟨role, hrole⟩ := hroles.exists_role hname
    exact ⟨role, ⟨hrole, hroles.role_eq_ok_iff.mpr hrole⟩,
      fun other hother => hroles.role_unique hother.1 hrole⟩

lemma result_ofUsage (block : Block) (constants : List String) (usage : Usage) :
    (Roles.ofUsage block constants usage).result = splitRoles block constants usage := by
  simp only [Roles.ofUsage, Logged.result_bind, Logged.result_lift, Logged.result_record,
    Logged.result_pure]
  cases splitRoles block constants usage <;> rfl

/-- **Every variable that a block takes has exactly one role**, and the roles are as the usage and
the constants say, whether the usage is that of the block or any other. -/
theorem Roles.splits_of_result :
    (∀ usage, (Roles.ofUsage block constants usage).result = .ok roles →
      roles.Splits block constants usage) ∧
    ((Roles.ofBlock block constants).result = .ok roles →
      ∃ usage, block.usage = .ok usage ∧ roles.Splits block constants usage) := by
  constructor
  · intro usage h
    rw [result_ofUsage] at h
    exact splits_of_splitRoles h
  · intro h
    rw [result_ofBlock] at h
    obtain ⟨usage, husage, hsplit⟩ := bind_eq_ok_iff.mp h
    exact ⟨usage, husage, splits_of_splitRoles hsplit⟩

/-- A block split by its own usage, and by one that swaps what is written to. -/
theorem Roles.splits_of_result_own_and_foreign :
    Roles.Splits ⟨["a", "c", "val", "i"], ["c"], ["i"], ["a", "val"]⟩
      ⟨"a[i, i] = val\nc[i] = np.sin(val)\n".toList, "f",
        .ofNames ["a", "b", "c", "val", "i"] .object, false⟩ ["i", "b", "i"]
      ⟨[], [], ["val", "c", "i", "np", "a"], ["np", "c"]⟩ ∧
    ∃ usage, Block.usage ⟨"a[i, i] = val\nc[i] = np.sin(val)\n".toList, "f",
        .ofNames ["a", "b", "c", "val", "i"] .object, false⟩ = .ok usage ∧
      Roles.Splits ⟨["a", "c", "val", "i"], ["a", "c"], ["i"], ["val"]⟩
        ⟨"a[i, i] = val\nc[i] = np.sin(val)\n".toList, "f",
          .ofNames ["a", "b", "c", "val", "i"] .object, false⟩ ["i", "b", "i"] usage :=
  ⟨Roles.splits_of_result.1 _ (by decide +kernel), Roles.splits_of_result.2 (by decide +kernel)⟩

end AdjointSynthesis

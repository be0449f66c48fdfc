import AdjointSynthesis.Proofs.Emission

/-!
# What a synthesis depends on

A synthesis is given a whole scope and any list of declared constants, and looks at little of them.
The names that a block does not refer to are as good as absent, and constants do no more than turn
active variables into constant ones.

* `Usage.SeesAlike`: two scopes with declared constants that differ only in what a usage does not
  refer to.
* `synthesize_eq_of_seesAlike`: such a difference shows neither in the definitions nor in a failure.
* `Artifacts.RedeclaredTo`: how definitions change with the declared constants.
* `synthesize_redeclared`: which constants may be declared instead of others, and what follows.
-/

namespace AdjointSynthesis

variable {block other : Block} {constants others : List String} {usage : Usage}
  {settings : Settings}

/-! ## Names that are not referred to -/

/-- Whether two blocks with declared constants look the same to a usage, which sees nothing but the
names that it refers to. -/
structure Usage.SeesAlike (usage : Usage) (block : Block) (constants : List String)
    (other : Block) (others : List String) : Prop where
  /-- The visible variables that are referred to are the same, in the same order. -/
  visible : block.visible.filter usage.references = other.visible.filter usage.references
  immutable : ∀ name ∈ usage.referenced, block.scope.get? name = some .immutableArray ↔
    other.scope.get? name = some .immutableArray
  declared : ∀ name ∈ usage.referenced, name ∈ constants ↔ name ∈ others

instance : Decidable (usage.SeesAlike block constants other others) :=
  decidable_of_iff
    (block.visible.filter usage.references = other.visible.filter usage.references ∧
      (∀ name ∈ usage.referenced, block.scope.get? name = some .immutableArray ↔
        other.scope.get? name = some .immutableArray) ∧
      ∀ name ∈ usage.referenced, name ∈ constants ↔ name ∈ others)
    ⟨fun ⟨visible, immutable, declared⟩ => ⟨visible, immutable, declared⟩,
      fun h => ⟨h.visible, h.immutable, h.declared⟩⟩

namespace Usage.SeesAlike

variable (h : usage.SeesAlike block constants other others)
include h

lemma contains_eq {name : String} (hname : name ∈ usage.referenced) :
    constants.contains name = others.contains name := by
  rw [Bool.eq_iff_iff, List.contains_iff_mem, List.contains_iff_mem]
  exact h.declared name hname

lemma isImmutable_eq {name : String} (hname : name ∈ usage.referenced) :
    (block.scope.get? name == some .immutableArray) =
      (other.scope.get? name == some .immutableArray) := by
  rw [Bool.eq_iff_iff, beq_iff_eq, beq_iff_eq]
  exact h.immutable name hname

/-- The variables get the same roles. -/
lemma split_eq : usage.split block constants = usage.split other others := by
  have hinputs : (usage.split block constants).inputs = (usage.split other others).inputs :=
    h.visible
  have hmutated : (usage.split block constants).mutated = (usage.split other others).mutated :=
    congrArg (List.filter usage.mutates) hinputs
  have hdeclared : ∀ name ∈ (usage.split other others).inputs,
      constants.contains name = others.contains name := by
    intro name hmem
    exact h.contains_eq (usage.split_inputs_subset other others hmem)
  refine (Roles.mk.injEq ..).mpr ⟨hinputs, hmutated, ?_, ?_⟩
  · change (usage.split block constants).inputs.filter constants.contains = _
    rw [hinputs]
    exact List.filter_congr hdeclared
  · change ((usage.split block constants).inputs.filter fun name =>
      !(usage.split block constants).mutated.contains name && !constants.contains name) = _
    rw [hinputs, hmutated]
    refine List.filter_congr fun name hmem => ?_
    rw [hdeclared name hmem]
    rfl

/-- The roles are refused on the same grounds, with the same names. -/
lemma splitRoles_eq (hname : block.name = other.name) :
    splitRoles block constants usage = splitRoles other others usage := by
  have hmutated : ∀ name ∈ (usage.split other others).mutated, name ∈ usage.referenced := by
    intro name hmem
    exact usage.split_inputs_subset other others (List.mem_filter.mp hmem).1
  have hconflicts : (usage.split other others).mutated.filter constants.contains =
      (usage.split other others).mutated.filter others.contains :=
    List.filter_congr fun name hmem => h.contains_eq (hmutated name hmem)
  have himmutable : ((usage.split other others).mutated.filter fun name =>
        block.scope.get? name == some .immutableArray) =
      (usage.split other others).mutated.filter fun name =>
        other.scope.get? name == some .immutableArray :=
    List.filter_congr fun name hmem => h.isImmutable_eq (hmutated name hmem)
  rw [AdjointSynthesis.splitRoles_eq, AdjointSynthesis.splitRoles_eq, h.split_eq]
  dsimp only
  rw [hconflicts, himmutable, hname]

end Usage.SeesAlike

/-- Steps that go on alike from every value that is yielded are the same. -/
lemma Logged.bind_congr_of_result {α β : Type} {step : Logged α} {next next' : α → Logged β}
    (h : ∀ value, step.result = .ok value → next value = next' value) :
    step >>= next = step >>= next' := by
  change Logged.bind step next = Logged.bind step next'
  simp only [Logged.bind]
  cases hresult : step.result with
  | error failure => rfl
  | ok value => simp only [h value hresult]

lemma Roles.ofBlock_eq_of_seesAlike (htext : block.text = other.text)
    (hname : block.name = other.name)
    (h : ∀ usage, block.usage = .ok usage → usage.SeesAlike block constants other others) :
    Roles.ofBlock block constants = Roles.ofBlock other others := by
  have husage : other.usage = block.usage := congrArg Usage.ofText htext.symm
  rw [Roles.ofBlock, Roles.ofBlock, husage]
  refine Logged.bind_congr_of_result fun usage hresult => ?_
  rw [Roles.ofUsage, Roles.ofUsage, (h usage hresult).splitRoles_eq hname, hname]

/-- Behind the roles, no scope is looked at. -/
lemma synthesize_eq_of_ofBlock_eq [Template.Runtime] (htext : block.text = other.text)
    (hname : block.name = other.name) (hdegraded : block.isDegraded = other.isDegraded)
    (hroles : Roles.ofBlock block constants = Roles.ofBlock other others) :
    synthesize block constants settings = synthesize other others settings := by
  obtain ⟨text, name, scope, isDegraded⟩ := block
  obtain ⟨_, _, otherScope, _⟩ := other
  obtain rfl : text = _ := htext
  obtain rfl : name = _ := hname
  obtain rfl : isDegraded = _ := hdegraded
  rw [synthesize, hroles]
  rfl

section ClassShown

/-- A runtime in which a text shows its class and has no other attributes. -/
@[reducible] def Template.Runtime.classShown : Template.Runtime where
  Object := Unit
  attributeOf _ name :=
    if name = "__class__".toList then .ok (.object ()) else .error (.absent (.attribute name))
  stepInto _
    | .attribute name =>
      .error (.raised "AttributeError"
        ("type object 'str' has no attribute '" ++ String.ofList name ++ "'"))
    | _ => .error (.raised "TypeError" "type 'str' is not subscriptable")
  written _ := .ok "<class 'str'>".toList
  quoted _ := .ok "<class 'str'>".toList
  layOut layout _ :=
    if layout.isEmpty then .ok "<class 'str'>".toList
    else .error (.raised "TypeError" "unsupported format string passed to type.__format__")

attribute [local instance] Template.Runtime.classShown

end ClassShown

/-! ## Declared constants -/

/-- How the definitions of a block change when other constants are declared. -/
structure Artifacts.RedeclaredTo (artifacts later : Artifacts) (naming : Naming)
    (settings : Settings) (constants others : List String) : Prop where
  name_eq : later.name = artifacts.name
  inputs_eq : later.roles.inputs = artifacts.roles.inputs
  mutated_eq : later.roles.mutated = artifacts.roles.mutated
  /-- The two plain forms stay as they are, letter for letter. -/
  inplace_eq : later.inplace = artifacts.inplace
  returning_eq : later.returning = artifacts.returning
  constant_eq : later.roles.constant = artifacts.roles.inputs.filter others.contains
  active_eq : later.roles.active = artifacts.roles.inputs.filter fun name =>
    !artifacts.roles.mutated.contains name && !others.contains name
  /-- Both adjoint rules return a slot for each variable, -/
  returns : artifacts.Returns naming settings
  later_returns : later.Returns naming settings
  /-- and that of a variable changes only if its declaration does. -/
  slot_eq : ∀ name ∈ artifacts.roles.inputs, (name ∈ constants ↔ name ∈ others) →
    returnedSlot naming settings later.roles name =
      returnedSlot naming settings artifacts.roles name

/-- Other constants do no harm if none of them is written to. -/
lemma Usage.Writable.redeclared (h : usage.Writable block constants)
    (hothers : ∀ name ∈ (usage.split block constants).mutated, name ∉ others) :
    usage.Writable block others where
  mutated_ne_nil := h.mutated_ne_nil
  undeclared := hothers
  mutable := h.mutable

/-- The templates are filled in for the mutated variables, whatever is declared. -/
lemma exists_adjointRule_redeclared [Template.Runtime] (h : usage.Writable block constants)
    (hothers : usage.Writable block others) {adjoint : List Char}
    (hadjoint : adjointRule block (usage.split block constants) settings = .ok adjoint) :
    ∃ later, adjointRule block (usage.split block others) settings = .ok later := by
  obtain ⟨dense, zeroed, hdense, hzeroed, -⟩ := (adjointRule_eq_ok_iff h.partitioned).mp hadjoint
  exact ⟨_, (adjointRule_eq_ok_iff hothers.partitioned).mpr
    ⟨dense, zeroed, hdense, hzeroed, rfl⟩⟩

section
variable [Template.Runtime] {artifacts later : Artifacts}
  (h : (synthesize block constants settings).result = .ok artifacts)
include h

lemma undeclared_of_synthesize : ∀ name ∈ artifacts.roles.mutated, name ∉ constants := by
  obtain ⟨_, roles, _, -, hsplit, -, -, rfl⟩ := synthesize_eq_ok_iff.mp h
  obtain ⟨hwritable, rfl⟩ := splitRoles_eq_ok_iff.mp hsplit
  exact hwritable.undeclared

/-- The search for clashes counts the gradients of constants as well, so it does not see which
variables are constant. -/
lemma exists_synthesize_redeclared (hothers : ∀ name ∈ artifacts.roles.mutated, name ∉ others) :
    ∃ later, (synthesize block others settings).result = .ok later := by
  obtain ⟨usage, roles, adjoint, husage, hsplit, hclashes, hadjoint, rfl⟩ :=
    synthesize_eq_ok_iff.mp h
  obtain ⟨hwritable, rfl⟩ := splitRoles_eq_ok_iff.mp hsplit
  have hlater := hwritable.redeclared hothers
  obtain ⟨rule, hrule⟩ := exists_adjointRule_redeclared hwritable hlater hadjoint
  have hsplit' : splitRoles block others usage = .ok (usage.split block others) :=
    splitRoles_eq_ok_iff.mpr ⟨hlater, rfl⟩
  exact ⟨_, synthesize_eq_ok_iff.mpr ⟨usage, _, rule, husage, hsplit', hclashes, hrule, rfl⟩⟩

lemma redeclaredTo_of_synthesize
    (hlater : (synthesize block others settings).result = .ok later) :
    artifacts.RedeclaredTo later (Naming.of block settings) settings constants others := by
  have hroles := partitioned_of_synthesize h
  have hreturns := returns_of_synthesize h
  have hlaterRoles := partitioned_of_synthesize hlater
  have hlaterReturns := returns_of_synthesize hlater
  obtain ⟨usage, _, _, husage, hsplit, -, -, rfl⟩ := synthesize_eq_ok_iff.mp h
  obtain ⟨_, _, _, husage', hsplit', -, -, rfl⟩ := synthesize_eq_ok_iff.mp hlater
  obtain rfl : usage = _ := Except.ok.inj (husage.symm.trans husage')
  obtain ⟨-, rfl⟩ := splitRoles_eq_ok_iff.mp hsplit
  obtain ⟨-, rfl⟩ := splitRoles_eq_ok_iff.mp hsplit'
  -- constants enter the roles of a usage in the constant and in the active variables alone
  exact {
    name_eq := rfl
    inputs_eq := rfl
    mutated_eq := rfl
    inplace_eq := rfl
    returning_eq := rfl
    constant_eq := rfl
    active_eq := rfl
    returns := hreturns
    later_returns := hlaterReturns
    slot_eq := by
      intro name hname hsame
      rw [returnedSlot_eq hlaterRoles hname, returnedSlot_eq hroles hname,
        if_congr hsame rfl rfl] }

/-- **Constants affect only the adjoint rule.**  Where definitions can be written, they can be
written with other constants exactly if none of these is mutated, so with fewer constants always.
The variables, the mutated ones among them and the two plain forms are then the same, and a slot
changes only with the declaration of its variable. -/
theorem synthesize_redeclared (others : List String) :
    ((∃ later, (synthesize block others settings).result = .ok later) ↔
      ∀ name ∈ artifacts.roles.mutated, name ∉ others) ∧
    (others ⊆ constants → ∃ later, (synthesize block others settings).result = .ok later) ∧
    ∀ later, (synthesize block others settings).result = .ok later →
      artifacts.RedeclaredTo later (Naming.of block settings) settings constants others := by
  refine ⟨⟨?_, exists_synthesize_redeclared h⟩, fun hsubset => ?_, fun later hlater => ?_⟩
  · rintro ⟨later, hlater⟩
    rw [← (redeclaredTo_of_synthesize h hlater).mutated_eq]
    exact undeclared_of_synthesize hlater
  · refine exists_synthesize_redeclared h fun name hmutated hdeclared => ?_
    exact undeclared_of_synthesize h name hmutated (hsubset hdeclared)
  · exact redeclaredTo_of_synthesize h hlater

end

section

attribute [local instance] Template.Runtime.bare

/-- One constant declared instead of another, and the mutated variable instead of both. -/
theorem synthesize_redeclared_three_times :
    let block : Block := ⟨"a[i] = val\n".toList, "f", .ofNames ["a", "i", "val"] .object, false⟩
    let naming : Naming := ⟨"f", "f_", "back_f", "cotangents", "dz_"⟩
    ∃ artifacts, (synthesize block ["i"] .default).result = .ok artifacts ∧
      artifacts.roles.mutated = ["a"] ∧
      (∃ later, (synthesize block ["val", "b"] .default).result = .ok later ∧
        artifacts.RedeclaredTo later naming .default ["i"] ["val", "b"]) ∧
      (∃ later, (synthesize block [] .default).result = .ok later ∧
        artifacts.RedeclaredTo later naming .default ["i"] []) ∧
      ¬∃ later, (synthesize block ["a"] .default).result = .ok later := by
  intro block naming
  obtain ⟨artifacts, h, hmutated⟩ :
      ∃ artifacts, (synthesize block ["i"] .default).result = .ok artifacts ∧
        artifacts.roles.mutated = ["a"] := exists_ok_of_decide (by decide +kernel)
  have hother : ∀ name ∈ artifacts.roles.mutated, name ∉ ["val", "b"] := by
    rw [hmutated]
    decide
  obtain ⟨later, hlater⟩ := (synthesize_redeclared h ["val", "b"]).1.mpr hother
  obtain ⟨fewer, hfewer⟩ := (synthesize_redeclared h []).2.1 (List.nil_subset _)
  refine ⟨artifacts, h, hmutated, ⟨later, hlater, ?_⟩, ⟨fewer, hfewer, ?_⟩, fun hall => ?_⟩
  · exact (synthesize_redeclared h ["val", "b"]).2.2 later hlater
  · exact (synthesize_redeclared h []).2.2 fewer hfewer
  · have hnone := (synthesize_redeclared h ["a"]).1.mp hall "a"
    rw [hmutated] at hnone
    exact hnone List.mem_cons_self List.mem_cons_self

end

end AdjointSynthesis

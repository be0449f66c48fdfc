import AdjointSynthesis.Proofs.Failures
import AdjointSynthesis.Proofs.RuleTree
import Mathlib.Data.List.Nodup

/-!
# Names that hide each other

The definitions of a block hold three sorts of names: the variables that the block takes, the names
that are generated beside them, and the names of the dialect.  A synthesis refuses variables that
are named like something generated, and nothing else.

* `disjoint_generatedNames_of_synthesize`: what a synthesis that succeeds guarantees.
* `nodup_generatedNames_iff`: when the generated names are distinct; with default names this hangs
  on the name of the block and its variables (`nodup_generatedNames_default_iff`).
* `dialectName_not_reported`: a variable named like something of the dialect is never refused.
* `isHidden_iff`: the names that the adjoint rule binds, read off its syntax tree; which of them
  hide the in-place form and the names of the dialect from the call of the engine
  (`isHidden_inplace_iff`, `isHidden_dialectName_iff`).
-/

namespace AdjointSynthesis

variable {block : Block} {constants : List String} {settings : Settings} {roles : Roles}

/-! ## Variables and generated names -/

lemma mem_clashes_iff {name : String} : name ∈ clashes block roles settings ↔
    name ∈ roles.inputs ∧ name ∈ generatedNames block roles settings := by
  rw [clashes, List.mem_filter, List.contains_iff_mem]

lemma clashes_eq_nil_iff : clashes block roles settings = [] ↔
    roles.inputs.Disjoint (generatedNames block roles settings) := by
  rw [List.eq_nil_iff_forall_not_mem]
  exact forall_congr' fun name => by rw [mem_clashes_iff, not_and]

/-- **No variable is named like something generated** when the definitions are written. -/
theorem disjoint_generatedNames_of_synthesize [Template.Runtime] {artifacts : Artifacts}
    (h : (synthesize block constants settings).result = .ok artifacts) :
    artifacts.roles.inputs.Disjoint (generatedNames block artifacts.roles settings) := by
  obtain ⟨_, roles, _, -, -, hclashes, -, rfl⟩ := synthesize_eq_ok_iff.mp h
  exact clashes_eq_nil_iff.mp hclashes

/-! ## Generated names among themselves -/

lemma Naming.gradient_injective (naming : Naming) : Function.Injective naming.gradient := by
  intro name other h
  exact String.append_right_inj naming.gradientStart |>.mp h

/-- **When the generated names are distinct**: the three names beside the gradients are, and none of
them is a gradient. -/
theorem nodup_generatedNames_iff (hinputs : roles.inputs.Nodup) :
    (generatedNames block roles settings).Nodup ↔
      let naming := Naming.of block settings
      [naming.inplace, naming.backward, naming.cotangent].Nodup ∧
        ∀ name ∈ roles.inputs,
          naming.gradient name ∉ [naming.inplace, naming.backward, naming.cotangent] := by
  dsimp only [generatedNames]
  rw [List.nodup_append, List.nodup_map_iff (Naming.gradient_injective _)]
  constructor
  · rintro ⟨hbeside, -, hapart⟩
    refine ⟨hbeside, fun name hname hgradient => ?_⟩
    exact hapart _ hgradient _ (List.mem_map_of_mem hname) rfl
  · rintro ⟨hbeside, hapart⟩
    refine ⟨hbeside, hinputs, fun other hother gradient hgradient heq => ?_⟩
    obtain ⟨name, hname, rfl⟩ := List.mem_map.mp hgradient
    exact hapart name hname (heq ▸ hother)

/-- Whether the generated names are built as when nobody changed a setting. -/
def Settings.NamesDefault (settings : Settings) : Prop :=
  ∀ setting ∈ [Setting.inplaceSuffix, .gradientStart, .backwardStart, .cotangentName],
    settings.get setting = setting.default?

/-- The names for a block when nobody changed a setting. -/
def Naming.ofName (name : String) : Naming :=
  ⟨name, name ++ "_", "back_" ++ name, "cotangents", "dz_"⟩

lemma Settings.NamesDefault.naming (h : settings.NamesDefault) (block : Block) :
    Naming.of block settings = Naming.ofName block.name := by
  have hsuffix : settings.inplaceSuffix = "_" := Option.some.inj (h .inplaceSuffix (by decide))
  have hgradient : settings.gradientStart = "dz_" := Option.some.inj (h .gradientStart (by decide))
  have hbackward : settings.backwardStart = "back_" :=
    Option.some.inj (h .backwardStart (by decide))
  have hcotangent : settings.cotangentName = "cotangents" :=
    Option.some.inj (h .cotangentName (by decide))
  rw [Naming.of, hsuffix, hgradient, hbackward, hcotangent]
  rfl

/-- A name with a start in front of it is no text that begins otherwise. -/
lemma append_ne_of_head? {start name word : String} (hstart : start.toList ≠ [])
    (h : start.toList.head? ≠ word.toList.head?) : start ++ name ≠ word := by
  rintro rfl
  rw [String.toList_append, List.head?_append_of_ne_nil _ hstart] at h
  exact h rfl

/-- A name with an end behind it is no text that ends otherwise. -/
lemma append_ne_of_getLast? {name stop word : String} (hstop : stop.toList ≠ [])
    (h : stop.toList.getLast? ≠ word.toList.getLast?) : name ++ stop ≠ word := by
  rintro rfl
  rw [String.toList_append, List.getLast?_append_of_ne_nil _ hstop] at h
  exact h rfl

lemma inplace_ne_backward (name : String) : name ++ "_" ≠ "back_" ++ name := by
  intro h
  have hlength := congrArg String.length h
  rw [String.length_append, String.length_append] at hlength
  have hone : "_".length = 1 := rfl
  have hfive : "back_".length = 5 := rfl
  omega

/-- **With default names** the only names that can coincide are that of the in-place form and the
gradient of a variable. -/
theorem nodup_generatedNames_default_iff (hnames : settings.NamesDefault)
    (hinputs : roles.inputs.Nodup) :
    (generatedNames block roles settings).Nodup ↔
      ∀ name ∈ roles.inputs, "dz_" ++ name ≠ block.name ++ "_" := by
  rw [nodup_generatedNames_iff hinputs, hnames.naming]
  have hbackward := inplace_ne_backward block.name
  have hcotangent : block.name ++ "_" ≠ "cotangents" :=
    append_ne_of_getLast? (by decide) (by decide)
  have hbeside : "back_" ++ block.name ≠ "cotangents" := append_ne_of_head? (by decide) (by decide)
  constructor
  · rintro ⟨-, hapart⟩ name hname heq
    exact hapart name hname (List.mem_cons.mpr (.inl heq))
  · intro h
    refine ⟨by simp [Naming.ofName, hbackward, hcotangent, hbeside], fun name hname hmem => ?_⟩
    simp only [Naming.gradient, Naming.ofName, List.mem_cons, List.not_mem_nil, or_false] at hmem
    rcases hmem with hinplace | hback | hcot
    · exact h name hname hinplace
    · have hhead : ("dz_" ++ name).toList.head? = ("back_" ++ block.name).toList.head? :=
        congrArg (·.toList.head?) hback
      rw [String.toList_append, String.toList_append] at hhead
      cases hhead
    · exact append_ne_of_head? (by decide) (by decide) hcot

section

attribute [local instance] Template.Runtime.bare

/-- A block whose in-place form is named like the gradient of its variable. -/
theorem not_nodup_generatedNames :
    let block : Block := ⟨"x_[0] = 1\n".toList, "dz_x", .ofNames ["x_"] .array, false⟩
    ∃ artifacts, (synthesize block [] .default).result = .ok artifacts ∧
      ¬ (generatedNames block artifacts.roles .default).Nodup :=
  exists_ok_of_decide (by decide +kernel)

end

/-! ## Names of the dialect -/

/-- The names that the body of an adjoint rule refers to in the default dialect. -/
def dialectNames : List String :=
  ["autodiff", "Duplicated", "Active", "Const", "np", "isinstance", "Fill"]

lemma dialectName_not_generated (hnames : settings.NamesDefault) {name : String}
    (hname : name ∈ dialectNames) : name ∉ generatedNames block roles settings := by
  have hends : ∀ name ∈ dialectNames, "_".toList.getLast? ≠ name.toList.getLast? := by decide
  have hback : ∀ name ∈ dialectNames, "back_".toList.head? ≠ name.toList.head? := by decide
  have hgradient : ∀ name ∈ dialectNames, "dz_".toList.head? ≠ name.toList.head? := by decide
  intro hmem
  simp only [generatedNames, hnames.naming, Naming.ofName, Naming.gradient, List.cons_append,
    List.nil_append, List.mem_cons, List.mem_map] at hmem
  rcases hmem with rfl | rfl | rfl | ⟨input, -, rfl⟩
  · exact append_ne_of_getLast? (by decide) (hends _ hname) rfl
  · exact append_ne_of_head? (by decide) (hback _ hname) rfl
  · exact absurd hname (by decide)
  · exact append_ne_of_head? (by decide) (hgradient _ hname) rfl

/-- **No name of the dialect is reported** with default names: a variable that is named like one of
them passes the search for clashes, whatever else does not. -/
theorem dialectName_not_reported [Template.Runtime] (hnames : settings.NamesDefault) {function : String}
    {names : List String}
    (h : (synthesize block constants settings).result = .error (.nameCollision function names)) :
    dialectNames.Disjoint names := by
  obtain ⟨usage, roles, -, -, -, rfl, -⟩ := synthesize_eq_nameCollision_iff.mp h
  intro name hname hreported
  exact dialectName_not_generated hnames hname (mem_clashes_iff.mp hreported).2

section

attribute [local instance] Template.Runtime.bare

/-- A block with a variable that is named like the engine. -/
theorem not_disjoint_dialectNames :
    let block : Block :=
      ⟨"a[0] = autodiff\n".toList, "f", .ofNames ["a", "autodiff"] .array, false⟩
    ∃ artifacts, (synthesize block [] .default).result = .ok artifacts ∧
      "autodiff" ∈ artifacts.roles.inputs :=
  exists_ok_of_decide (by decide +kernel)

end

/-! ## What the call of the engine cannot see -/

/-- The name that a target binds. -/
def Code.Expr.boundName? : Code.Expr → Option String
  | .mk _ (.name id) => some id
  | _ => none

/-- The names that an assignment or a definition binds. -/
def Code.Stmt.boundNames : Code.Stmt → List String
  | .mk _ (.function _ name _ _ _ _) => [name]
  | stmt => stmt.targets.filterMap Code.Expr.boundName?

/-- The names of some parameters. -/
def Code.parameterNames (parameters : List Code.Parameter) : List String :=
  parameters.map fun | .mk _ name _ => name

/-- The names of a function whose statements are assignments, definitions, calls and returns: its
parameters and what its statements bind. -/
def Code.Stmt.localNames : Code.Stmt → List String
  | .mk _ (.function _ _ (.mk positionalOnly positional variadic keywordOnly _ keywords _)
      body _ _) =>
    Code.parameterNames (positionalOnly ++ positional ++ variadic.toList ++ keywordOnly ++
      keywords.toList) ++ body.flatMap Code.Stmt.boundNames
  | _ => []

/-- Whether a name means something of the rule, and nothing outside of it, where the engine is
called. -/
def IsHidden (naming : Naming) (roles : Roles) (name : String) : Prop :=
  name ∈ (ruleTree naming roles).localNames ∨ name ∈ (backwardTree naming roles).localNames

/-- The identifier that a name stands for. -/
def identified (name : String) : String := Code.Grammar.identifierOf name.toList

section
variable {naming : Naming}

lemma boundNames_assignTree {target value : Code.Expr} :
    (Code.Grammar.assignTree target value).boundNames =
      target.flatTargets.filterMap Code.Expr.boundName? := by
  simp [Code.Grammar.assignTree, Code.Stmt.boundNames, Code.Stmt.targets]

lemma boundNames_nameOf (name : String) (value : Code.Expr) :
    (Code.Grammar.assignTree (nameOf name) value).boundNames = [identified name] := by
  rw [boundNames_assignTree]
  rfl

lemma boundNames_namesOf (names : List String) (value : Code.Expr) :
    (Code.Grammar.assignTree (namesOf names) value).boundNames = names.map identified := by
  rw [boundNames_assignTree]
  change (names.map nameOf).filterMap Code.Expr.boundName? = _
  rw [List.filterMap_map]
  have hname : Code.Expr.boundName? ∘ nameOf = some ∘ identified := rfl
  rw [hname, List.filterMap_eq_map]

lemma parameterNames_parameterTree (names : List String) :
    Code.parameterNames ((names.map String.toList).map Code.Grammar.parameterTree) =
      names.map identified := by
  rw [Code.parameterNames, List.map_map, List.map_map]
  rfl

lemma localNames_functionOf (name : String) (parameters : List String) (body : List Code.Stmt)
    (decoration : List Code.Expr) :
    (functionOf name parameters body decoration).localNames =
      parameters.map identified ++ body.flatMap Code.Stmt.boundNames := by
  rw [← parameterNames_parameterTree]
  simp [functionOf, Code.Grammar.functionTree, Code.Grammar.parametersTree, Code.Stmt.localNames]

/-- The adjoint rule binds its parameters and the function from cotangents to gradients. -/
lemma localNames_ruleTree (naming : Naming) (roles : Roles) :
    (ruleTree naming roles).localNames = (roles.inputs ++ [naming.backward]).map identified := by
  rw [ruleTree, localNames_functionOf, List.map_append]
  rfl

/-- The function from cotangents to gradients binds the cotangents and the gradients of all
variables that are not constant. -/
lemma mem_localNames_backwardTree {name : String} :
    name ∈ (backwardTree naming roles).localNames ↔
      ∃ other ∈ naming.cotangent :: (roles.mutated ++ roles.active).map naming.gradient,
        identified other = name := by
  have hdensify (input : String) :
      (densifyTree naming input).boundNames = [identified (naming.gradient input)] :=
    boundNames_nameOf _ _
  have hnoGradient (input : String) :
      (noGradientTree naming input).boundNames = [identified (naming.gradient input)] :=
    boundNames_nameOf _ _
  have hengine : (engineTree naming roles).boundNames =
      (roles.active.map naming.gradient).map identified := by
    unfold engineTree
    split
    · next hnone =>
      rw [hnone]
      rfl
    · exact boundNames_namesOf _ _
  have hreturn (value : Code.Expr) : (Code.Grammar.returnTree value).boundNames = [] := rfl
  rw [backwardTree, localNames_functionOf, backwardBody]
  simp only [List.flatMap_cons, List.flatMap_append, List.flatMap_map, boundNames_namesOf, hdensify,
    hnoGradient, hengine, hreturn, List.flatMap_nil, List.append_nil, List.map_cons, List.map_nil,
    List.mem_append, List.mem_cons, List.not_mem_nil, or_false, List.mem_map, List.mem_flatMap,
    List.map_append]
  constructor
  · rintro (rfl | ⟨_, ⟨input, hmem, rfl⟩, rfl⟩ | ⟨input, hmem, rfl⟩ | ⟨input, hmem, rfl⟩ |
      ⟨_, ⟨input, hmem, rfl⟩, rfl⟩)
    · exact ⟨_, .inl rfl, rfl⟩
    · exact ⟨_, .inr (.inl ⟨input, hmem, rfl⟩), rfl⟩
    · exact ⟨_, .inr (.inl ⟨input, hmem, rfl⟩), rfl⟩
    · exact ⟨_, .inr (.inl ⟨input, hmem, rfl⟩), rfl⟩
    · exact ⟨_, .inr (.inr ⟨input, hmem, rfl⟩), rfl⟩
  · rintro ⟨_, rfl | ⟨input, hmem, rfl⟩ | ⟨input, hmem, rfl⟩, rfl⟩
    · exact .inl rfl
    · exact .inr (.inl ⟨_, ⟨input, hmem, rfl⟩, rfl⟩)
    · exact .inr (.inr (.inr (.inr ⟨_, ⟨input, hmem, rfl⟩, rfl⟩)))

/-- The names that the adjoint rule and the function in it bind. -/
def ruleNames (naming : Naming) (roles : Roles) : List String :=
  roles.inputs ++ naming.backward :: naming.cotangent ::
    (roles.mutated ++ roles.active).map naming.gradient

/-- **What the call of the engine cannot see** is what the rule and the function in it bind. -/
theorem isHidden_iff {name : String} :
    IsHidden naming roles name ↔ ∃ other ∈ ruleNames naming roles, identified other = name := by
  rw [IsHidden, localNames_ruleTree, mem_localNames_backwardTree, List.mem_map, ← exists_or]
  refine exists_congr fun other => ?_
  rw [← or_and_right, ruleNames, List.mem_append, List.mem_append, List.mem_singleton,
    List.mem_cons (b := naming.backward), or_assoc]

/-- With names that are spelled like their identifiers nothing else is hidden. -/
lemma isHidden_iff_mem (hnormal : ∀ name ∈ ruleNames naming roles, identified name = name)
    {name : String} : IsHidden naming roles name ↔ name ∈ ruleNames naming roles := by
  rw [isHidden_iff]
  constructor
  · rintro ⟨other, hother, rfl⟩
    rwa [hnormal other hother]
  · exact fun hname => ⟨name, hname, hnormal name hname⟩

end

section
variable [Template.Runtime] {artifacts : Artifacts}
  (h : (synthesize block constants settings).result = .ok artifacts)
  (hnormal : ∀ name ∈ ruleNames (Naming.of block settings) artifacts.roles, identified name = name)
include h

/-- What the rule binds beside its parameters is generated. -/
lemma mem_ruleNames_iff {name : String} :
    name ∈ ruleNames (Naming.of block settings) artifacts.roles ↔
      name ∈ artifacts.roles.inputs ∨ name = (Naming.of block settings).backward ∨
        name = (Naming.of block settings).cotangent ∨
          ∃ input ∈ artifacts.roles.inputs, input ∉ artifacts.roles.constant ∧
            (Naming.of block settings).gradient input = name := by
  have hroles := partitioned_of_synthesize h
  have hgradients : name ∈ (artifacts.roles.mutated ++ artifacts.roles.active).map
      (Naming.of block settings).gradient ↔ ∃ input ∈ artifacts.roles.inputs,
        input ∉ artifacts.roles.constant ∧ (Naming.of block settings).gradient input = name := by
    rw [List.mem_map]
    constructor
    · rintro ⟨input, hinput, rfl⟩
      rcases List.mem_append.mp hinput with hmutated | hactive
      · exact ⟨input, hroles.mem_inputs_of_mutated hmutated,
          hroles.mutated_not_constant input hmutated, rfl⟩
      · have hmem := hroles.mem_inputs_of_active hactive
        exact ⟨input, hmem, ((hroles.mem_active_iff hmem).mp hactive).2, rfl⟩
    · rintro ⟨input, hmem, hconstant, rfl⟩
      by_cases hmutated : input ∈ artifacts.roles.mutated
      · exact ⟨input, List.mem_append_left _ hmutated, rfl⟩
      · have hactive := (hroles.mem_active_iff hmem).mpr ⟨hmutated, hconstant⟩
        exact ⟨input, List.mem_append_right _ hactive, rfl⟩
  rw [ruleNames, List.mem_append, List.mem_cons, List.mem_cons, hgradients]

include hnormal

/-- **The in-place form is seen where the engine is called** if the generated names are distinct. -/
theorem not_isHidden_inplace
    (hdistinct : (generatedNames block artifacts.roles settings).Nodup) :
    ¬IsHidden (Naming.of block settings) artifacts.roles (Naming.of block settings).inplace := by
  have hinplace : (Naming.of block settings).inplace ∈
      generatedNames block artifacts.roles settings := List.mem_cons_self
  have hapart := (List.nodup_cons.mp hdistinct).1
  rw [isHidden_iff_mem hnormal, mem_ruleNames_iff h]
  rintro (hinput | hback | hcot | ⟨input, hinput, -, hgradient⟩)
  · exact disjoint_generatedNames_of_synthesize h hinput hinplace
  · exact hapart (by rw [hback]; exact List.mem_cons_self)
  · exact hapart (by rw [hcot]; exact List.mem_cons_of_mem _ List.mem_cons_self)
  · refine hapart (List.mem_cons_of_mem _ (List.mem_cons_of_mem _ ?_))
    rw [← hgradient]
    exact List.mem_map_of_mem hinput

/-- **When the in-place form is hidden**, with default names: exactly if it is named like the
gradient of a variable that is not constant. -/
theorem isHidden_inplace_iff (hnames : settings.NamesDefault) :
    IsHidden (Naming.of block settings) artifacts.roles (Naming.of block settings).inplace ↔
      ∃ input ∈ artifacts.roles.inputs, input ∉ artifacts.roles.constant ∧
        "dz_" ++ input = block.name ++ "_" := by
  have hinplace : (Naming.of block settings).inplace ∈
      generatedNames block artifacts.roles settings := List.mem_cons_self
  have hapart : (Naming.of block settings).inplace ∉ artifacts.roles.inputs :=
    fun hmem => disjoint_generatedNames_of_synthesize h hmem hinplace
  have hcotangent : block.name ++ "_" ≠ "cotangents" :=
    append_ne_of_getLast? (by decide) (by decide)
  rw [isHidden_iff_mem hnormal, mem_ruleNames_iff h]
  rw [hnames.naming] at hapart ⊢
  constructor
  · rintro (hinput | hback | hcot | hgradient)
    · exact absurd hinput hapart
    · exact absurd hback (inplace_ne_backward block.name)
    · exact absurd hcot hcotangent
    · exact hgradient
  · exact fun hgradient => .inr (.inr (.inr hgradient))

/-- **When a name of the dialect is hidden**, with default names: exactly if a variable is named
like it. -/
theorem isHidden_dialectName_iff (hnames : settings.NamesDefault) {name : String}
    (hname : name ∈ dialectNames) :
    IsHidden (Naming.of block settings) artifacts.roles name ↔ name ∈ artifacts.roles.inputs := by
  have hgenerated : name ∉ generatedNames block artifacts.roles settings :=
    dialectName_not_generated hnames hname
  rw [isHidden_iff_mem hnormal, mem_ruleNames_iff h]
  constructor
  · rintro (hinput | rfl | rfl | ⟨input, hinput, -, rfl⟩)
    · exact hinput
    · exact absurd (List.mem_cons_of_mem _ List.mem_cons_self) hgenerated
    · exact absurd (List.mem_cons_of_mem _ (List.mem_cons_of_mem _ List.mem_cons_self)) hgenerated
    · exact absurd (List.mem_append_right _ (List.mem_map_of_mem hinput)) hgenerated
  · exact .inl

end

end AdjointSynthesis

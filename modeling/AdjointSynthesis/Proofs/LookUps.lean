import AdjointSynthesis.Proofs.Alignment
import AdjointSynthesis.Proofs.Recovery

/-!
# Names that emission looks up

An adjoint rule looks up the gradients of the mutated and of the active variables among the inputs,
and the roles of the inputs.  Roles that are no split may fail it: the first name that is looked up in
vain is then the reason, and nothing else can be.  The two forms of the block look nothing up.

* `Roles.Complete`: roles with which all look-ups find something.
* `Roles.unknown?`: the first name that is looked up in vain.
* `adjointRule_eq_match`: the rule, or this name.
* `emission_with_any_roles`: what follows for emission as a whole.
-/

namespace AdjointSynthesis

/-! ## Roles that are no split -/

namespace Roles

/-- Whether the mutated and the active variables are inputs, and all inputs have roles. -/
structure Complete (roles : Roles) : Prop where
  mutated : roles.mutated ⊆ roles.inputs
  active : roles.active ⊆ roles.inputs
  inputs : ∀ name ∈ roles.inputs,
    name ∈ roles.mutated ∨ name ∈ roles.constant ∨ name ∈ roles.active

/-- Whether a name has a role. -/
def covers (roles : Roles) (name : String) : Bool :=
  roles.mutated.contains name || roles.constant.contains name || roles.active.contains name

/-- The first name that emission looks up in vain: a mutated variable that is no input, or else an
active one, or else an input without a role. -/
def unknown? (roles : Roles) : Option String :=
  ((roles.mutated.find? (!roles.inputs.contains ·)).or
    (roles.active.find? (!roles.inputs.contains ·))).or
    (roles.inputs.find? (!roles.covers ·))

lemma covers_iff {roles : Roles} {name : String} : roles.covers name = true ↔
    name ∈ roles.mutated ∨ name ∈ roles.constant ∨ name ∈ roles.active := by
  simp only [covers, Bool.or_eq_true, List.contains_iff_mem, or_assoc]

lemma unknown?_eq_none_iff {roles : Roles} : roles.unknown? = none ↔ roles.Complete := by
  simp only [unknown?, Option.or_eq_none_iff, List.find?_eq_none, covers_iff, Bool.not_eq_true,
    Bool.not_eq_false', List.contains_iff_mem]
  exact ⟨fun ⟨⟨hmutated, hactive⟩, hinputs⟩ => ⟨hmutated, hactive, hinputs⟩,
    fun h => ⟨⟨h.mutated, h.active⟩, h.inputs⟩⟩

/-- A split leaves nothing to look up in vain. -/
lemma Partitioned.complete {roles : Roles} {constants : List String}
    (h : roles.Partitioned constants) : roles.Complete where
  mutated _ := h.mem_inputs_of_mutated
  active _ := h.mem_inputs_of_active
  inputs name hname := by
    obtain ⟨role, hrole⟩ := h.exists_role hname
    cases role with
    | mutated => exact .inl hrole
    | constant => exact .inr (.inl hrole)
    | active => exact .inr (.inr hrole)

end Roles

/-! ## Names that are looked up in a row -/

/-- Names are looked up one after the other until the first is looked up in vain. -/
lemma mapM_lookUp {β : Type} {lookUp : String → Except Failure β} {isMissing : String → Bool}
    {found : String → β}
    (hmissing : ∀ name, isMissing name = true → lookUp name = .error (.unknownName name))
    (hfound : ∀ name, isMissing name = false → lookUp name = .ok (found name))
    (names : List String) :
    names.mapM lookUp = match names.find? isMissing with
      | some name => .error (.unknownName name)
      | none => .ok (names.map found) := by
  induction names with
  | nil => rfl
  | cons name rest ih =>
    rw [List.mapM_cons, List.find?_cons]
    cases hname : isMissing name with
    | true =>
      rw [hmissing name hname]
      rfl
    | false =>
      rw [hfound name hname, ih]
      cases rest.find? isMissing <;> rfl

section
variable {block : Block} {roles : Roles} {settings : Settings}

lemma mapM_gradientOf_eq (naming : Naming) (names : List String) :
    names.mapM (gradientOf naming roles) =
      match names.find? (!roles.inputs.contains ·) with
      | some name => .error (.unknownName name)
      | none => .ok (names.map naming.gradient) := by
  refine mapM_lookUp (fun name hname => ?_) (fun name hname => ?_) names
  · exact if_neg (by simpa using hname)
  · exact if_pos (by simpa using hname)

/-- The role of a name, if it has one, is the first of those that it has. -/
lemma Roles.role_eq (roles : Roles) (name : String) : roles.role name =
    if !roles.covers name then .error (.unknownName name)
    else if name ∈ roles.mutated then .ok .mutated
    else if name ∈ roles.constant then .ok .constant else .ok .active := by
  simp only [role, covers, List.contains_iff_mem, Bool.not_eq_true', Bool.or_eq_false_iff]
  split_ifs <;> simp_all

lemma engineArgument_of_covers (naming : Naming) {name : String} (h : roles.covers name = true) :
    engineArgument naming settings roles name = .ok (argumentText naming settings roles name) := by
  rw [engineArgument, roles.role_eq, if_neg (by simpa using h), argumentText]
  split_ifs <;> rfl

lemma mapM_engineArgument_eq (naming : Naming) (names : List String) :
    names.mapM (engineArgument naming settings roles) =
      match names.find? (!roles.covers ·) with
      | some name => .error (.unknownName name)
      | none => .ok (names.map (argumentText naming settings roles)) := by
  refine mapM_lookUp (fun name hname => ?_) (fun name hname => ?_) names
  · rw [engineArgument, roles.role_eq, if_pos hname]
    rfl
  · exact engineArgument_of_covers naming (by simpa using hname)

/-! ## The rule, or the first name that is missing -/

/-- **An adjoint rule is written unless a name is looked up in vain**, and the first such name is the
only reason why it is not. -/
lemma adjointRule_eq_match [Template.Runtime]
    (hdensify : settings.densifyTemplate = Settings.default.densifyTemplate)
    (hnoGradient : settings.noGradientTemplate = Settings.default.noGradientTemplate) :
    adjointRule block roles settings = match roles.unknown? with
      | some name => .error (.unknownName name)
      | none =>
        let naming := Naming.of block settings
        .ok (ofLines ((dialectLines naming settings roles (roles.mutated.map (densifyText naming))
          (roles.mutated.map (noGradientText naming))).map fun line =>
            lineAt settings line.1 line.2)) := by
  have hdense : roles.mutated.mapM (densifyLine (Naming.of block settings) settings) =
      .ok (roles.mutated.map (densifyText (Naming.of block settings))) :=
    mapM_eq_pure fun name _ => densifyLine_eq hdensify _ name
  have hzeroed : roles.mutated.mapM (noGradientLine (Naming.of block settings) settings) =
      .ok (roles.mutated.map (noGradientText (Naming.of block settings))) :=
    mapM_eq_pure fun name _ => noGradientLine_eq hnoGradient _ name
  cases hunknown : roles.unknown? with
  | none =>
    have hcomplete := Roles.unknown?_eq_none_iff.mp hunknown
    rw [adjointRule_eq_of_lookUps hcomplete.mutated hcomplete.active fun name hname =>
      engineArgument_of_covers _ (Roles.covers_iff.mpr (hcomplete.inputs name hname))]
    dsimp only
    rw [hdense, hzeroed]
    rfl
  | some name =>
    -- the look-ups are made in the order in which the missing name is searched for
    unfold adjointRule
    dsimp only
    rw [mapM_gradientOf_eq, hdense, hzeroed, mapM_gradientOf_eq, mapM_engineArgument_eq]
    unfold Roles.unknown? at hunknown
    cases hmutated : roles.mutated.find? (!roles.inputs.contains ·) with
    | some first =>
      rw [hmutated] at hunknown
      cases hunknown
      rfl
    | none =>
      cases hactive : roles.active.find? (!roles.inputs.contains ·) with
      | some first =>
        rw [hmutated, hactive] at hunknown
        cases hunknown
        rfl
      | none =>
        rw [hmutated, hactive, Option.none_or, Option.none_or] at hunknown
        rw [hunknown]
        rfl

/-- **Emission with any roles in the default dialect of the templates.**  The adjoint rule is written
exactly if its look-ups find everything, otherwise the first name that is missing is reported, and the
two forms of the block are written in any case.  Nothing is missing from the roles of a block. -/
theorem emission_with_any_roles [Template.Runtime]
    (hdensify : settings.densifyTemplate = Settings.default.densifyTemplate)
    (hnoGradient : settings.noGradientTemplate = Settings.default.noGradientTemplate)
    (block : Block) (roles : Roles) :
    ((∃ rule, adjointRule block roles settings = .ok rule) ↔ roles.Complete) ∧
    (∀ failure, adjointRule block roles settings = .error failure ↔
      ∃ name, failure = .unknownName name ∧ roles.unknown? = some name) ∧
    (∃ body,
      inplaceForm block roles settings = ofLines
        (headLine (block.name ++ settings.inplaceSuffix) roles.inputs :: body ++
          [returnLine settings "None"]) ∧
      returningForm block roles settings = ofLines (headLine block.name roles.inputs :: body ++
        [returnLine settings (tupleText roles.mutated)])) ∧
    ∀ (other : Block) (constants : List String),
      (∀ usage, (Roles.ofUsage other constants usage).result = .ok roles →
        ∃ rule, adjointRule block roles settings = .ok rule) ∧
      ((Roles.ofBlock other constants).result = .ok roles →
        ∃ rule, adjointRule block roles settings = .ok rule) := by
  have hrule := @adjointRule_eq_match block roles settings _ hdensify hnoGradient
  have hok : (∃ rule, adjointRule block roles settings = .ok rule) ↔ roles.Complete := by
    rw [← Roles.unknown?_eq_none_iff, hrule]
    cases roles.unknown? <;> simp
  have hsplit {other : Block} {constants : List String} {usage : Usage}
      (h : splitRoles other constants usage = .ok roles) :
      ∃ rule, adjointRule block roles settings = .ok rule :=
    hok.mpr (splitRoles_eq_ok h).2.complete
  refine ⟨hok, fun failure => ?_, ⟨linesAt settings 1 block.text, ?_, ?_⟩,
    fun other constants => ⟨?_, ?_⟩⟩
  · rw [hrule]
    cases roles.unknown? <;> simp [eq_comm]
  · exact functionForm_eq_ofLines _ _ _ _ _
  · exact functionForm_eq_ofLines _ _ _ _ _
  · intro usage h
    rw [result_ofUsage] at h
    exact hsplit h
  · intro h
    rw [result_ofBlock] at h
    obtain ⟨usage, -, h⟩ := bind_eq_ok_iff.mp h
    exact hsplit h

attribute [local instance] Template.Runtime.bare

/-- Roles that overlap and repeat names, and one with a missing name for each of the look-ups, under an
indent that no check accepts. -/
theorem emission_with_any_roles_overlapping :
    (∃ rule, adjointRule ⟨"a[0] = b".toList, "f", .ofNames ["a"] .object, true⟩
      ⟨["b", "a", "a"], ["a", "a"], ["a"], ["b", "a"]⟩
      { Settings.default with indent := "" } = .ok rule) ∧
    adjointRule ⟨"a[0] = b".toList, "f", .ofNames ["a"] .object, true⟩
      ⟨["a", "b"], ["a", "z", "y"], [], ["q"]⟩
      { Settings.default with indent := "" } = .error (.unknownName "z") ∧
    adjointRule ⟨"a[0] = b".toList, "f", .ofNames ["a"] .object, true⟩
      ⟨["a", "b"], ["a"], [], ["a", "q", "p"]⟩
      { Settings.default with indent := "" } = .error (.unknownName "q") ∧
    adjointRule ⟨"a[0] = b".toList, "f", .ofNames ["a"] .object, true⟩
      ⟨["a", "b", "c"], ["a"], [], []⟩
      { Settings.default with indent := "" } = .error (.unknownName "b") := by
  have emission := @emission_with_any_roles { Settings.default with indent := "" } _ rfl rfl
    ⟨"a[0] = b".toList, "f", .ofNames ["a"] .object, true⟩
  refine ⟨(emission _).1.mpr ⟨?_, ?_, ?_⟩, (emission _).2.1 _ |>.mpr ⟨"z", rfl, ?_⟩,
    (emission _).2.1 _ |>.mpr ⟨"q", rfl, ?_⟩, (emission _).2.1 _ |>.mpr ⟨"b", rfl, ?_⟩⟩ <;> decide

end

end AdjointSynthesis

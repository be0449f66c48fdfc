import AdjointSynthesis.Proofs.Partition

/-!
# The lines of an adjoint rule

Emission looks up the gradient and the role of many names, and each look-up may fail.  When the
roles are those of a split, none does, and all that is left to fail are the templates.

* `argumentText`, `dialectLines`: the rule in any dialect, with the lines from the templates given.
* `adjointRule_eq_lines`: emission fills in the templates for the mutated variables and does nothing
  else that could fail.
* `adjointRule_eq_ok_iff`, `adjointRule_eq_error`: so a rule is written if the templates can be
  filled in, and one that is not written is the fault of a template.
* `Artifacts.Returns`: the lines that every rule ends with, with a slot for each variable.
-/

namespace AdjointSynthesis

variable {block : Block} {constants : List String} {roles : Roles} {settings : Settings}

/-- The annotated argument of the engine for a variable, as it stands on its line. -/
def argumentText (naming : Naming) (settings : Settings) (roles : Roles) (name : String) : String :=
  if name ∈ roles.mutated then
    settings.shadowWrapper ++ "(" ++ name ++ ", " ++ naming.gradient name ++ "),"
  else if name ∈ roles.constant then settings.inactiveWrapper ++ "(" ++ name ++ "),"
  else settings.activeWrapper ++ "(" ++ name ++ "),"

/-- The lines of an adjoint rule with their depths.  The lines that make the cotangents dense and
those that put zeros in place of missing ones are given. -/
def dialectLines (naming : Naming) (settings : Settings) (roles : Roles)
    (dense zeroed : List String) : List (Nat × String) :=
  [(0, "@" ++ settings.registerDecorator),
    (0, "def " ++ signature naming.plain roles.inputs ++ ":"),
    (1, signature naming.inplace roles.inputs), (0, ""),
    (1, "def " ++ naming.backward ++ "(" ++ naming.cotangent ++ "):"),
    (2, tupleText (roles.mutated.map naming.gradient) ++ " = " ++ naming.cotangent)] ++
  (dense ++ zeroed).map (fun line => (2, line)) ++
  [(2, engineHead settings (roles.active.map naming.gradient)), (3, naming.inplace ++ ",")] ++
  (if settings.returnWrapper = "" then [] else [(3, settings.returnWrapper ++ ",")]) ++
  roles.inputs.map (fun name => (3, argumentText naming settings roles name)) ++
  [(2, ")"), (2, "return " ++ tupleText (roles.inputs.map (returnedSlot naming settings roles))),
    (0, ""), (1, "return " ++ tupleText roles.mutated ++ ", " ++ naming.backward)]

lemma exists_dialectLines_eq (naming : Naming) (settings : Settings) (roles : Roles)
    (dense zeroed : List String) :
    ∃ before, dialectLines naming settings roles dense zeroed = before ++
      [(2, "return " ++ tupleText (roles.inputs.map (returnedSlot naming settings roles))),
        (0, ""), (1, "return " ++ tupleText roles.mutated ++ ", " ++ naming.backward)] :=
  ⟨_ ++ [(2, ")")], (List.append_assoc _ [(2, ")")] _).symm⟩

lemma mapM_eq_pure {m : Type → Type} [Monad m] [LawfulMonad m] {α β : Type} {f : α → m β}
    {g : α → β} {items : List α} (h : ∀ item ∈ items, f item = pure (g item)) :
    items.mapM f = pure (items.map g) := by
  induction items with
  | nil => rfl
  | cons item rest ih =>
    rw [List.mapM_cons, h item List.mem_cons_self,
      ih fun item hitem => h item (List.mem_cons_of_mem _ hitem)]
    simp

/-- Arguments have gradients. -/
lemma mapM_gradientOf (naming : Naming) {names : List String} (hnames : names ⊆ roles.inputs) :
    names.mapM (gradientOf naming roles) = pure (names.map naming.gradient) :=
  mapM_eq_pure fun _ hmem => if_pos (List.contains_iff_mem.mpr (hnames hmem))

/-- Arguments have roles. -/
lemma engineArgument_eq (hroles : roles.Partitioned constants) (naming : Naming) {name : String}
    (hname : name ∈ roles.inputs) :
    engineArgument naming settings roles name = .ok (argumentText naming settings roles name) := by
  obtain ⟨role, hmem⟩ := hroles.exists_role hname
  rw [engineArgument, hroles.role_eq_ok_iff.mpr hmem, argumentText]
  cases role with
  | mutated => exact congrArg Except.ok (if_pos hmem).symm
  | constant =>
    have hmutated : name ∉ roles.mutated := fun h => hroles.mutated_not_constant name h hmem
    rw [if_neg hmutated]
    exact congrArg Except.ok (if_pos hmem).symm
  | active =>
    obtain ⟨hmutated, hconstant⟩ := (hroles.mem_active_iff hname).mp hmem
    rw [if_neg hmutated, if_neg hconstant]
    rfl

/-- The slot of an argument is the zero literal exactly if the argument is declared constant. -/
lemma returnedSlot_eq (hroles : roles.Partitioned constants) {name : String}
    (hname : name ∈ roles.inputs) (naming : Naming) :
    returnedSlot naming settings roles name =
      if name ∈ constants then settings.zeroLiteral else naming.gradient name := by
  simp only [returnedSlot, List.contains_iff_mem, hroles.mem_constant_iff, hname, true_and]

variable [Template.Runtime]

/-- Once all look-ups of emission find what they look for, only templates are filled in. -/
lemma adjointRule_eq_of_lookUps (hmutated : roles.mutated ⊆ roles.inputs)
    (hactive : roles.active ⊆ roles.inputs)
    (harguments : ∀ name ∈ roles.inputs,
      engineArgument (Naming.of block settings) settings roles name =
        .ok (argumentText (Naming.of block settings) settings roles name)) :
    adjointRule block roles settings = (do
      let naming := Naming.of block settings
      let dense ← roles.mutated.mapM (densifyLine naming settings)
      let zeroed ← roles.mutated.mapM (noGradientLine naming settings)
      return ofLines ((dialectLines naming settings roles dense zeroed).map fun line =>
        lineAt settings line.1 line.2)) := by
  have hwritten : roles.inputs.mapM (engineArgument (Naming.of block settings) settings roles) =
      pure (roles.inputs.map (argumentText (Naming.of block settings) settings roles)) :=
    mapM_eq_pure harguments
  unfold adjointRule
  dsimp only
  rw [mapM_gradientOf _ hmutated, mapM_gradientOf _ hactive, hwritten]
  simp only [pure_bind]
  refine bind_congr fun dense => bind_congr fun zeroed => ?_
  refine congrArg (fun lines => Except.ok (ofLines lines)) ?_
  have hblank : lineAt settings 0 "" = [] := if_pos rfl
  simp only [dialectLines, List.map_append, List.map_map, List.map_cons, List.map_nil,
    Function.comp_def, hblank, apply_ite (List.map _), List.append_assoc, List.cons_append,
    List.nil_append]

/-- **Only templates are filled in.**  With the roles of a split, all look-ups of emission find what
they look for. -/
lemma adjointRule_eq_lines (hroles : roles.Partitioned constants) :
    adjointRule block roles settings = (do
      let naming := Naming.of block settings
      let dense ← roles.mutated.mapM (densifyLine naming settings)
      let zeroed ← roles.mutated.mapM (noGradientLine naming settings)
      return ofLines ((dialectLines naming settings roles dense zeroed).map fun line =>
        lineAt settings line.1 line.2)) :=
  adjointRule_eq_of_lookUps (fun _ => hroles.mem_inputs_of_mutated)
    (fun _ => hroles.mem_inputs_of_active) fun _ hmem => engineArgument_eq hroles _ hmem

/-- **When a rule is written, and which one**: the templates can be filled in for all mutated
variables. -/
lemma adjointRule_eq_ok_iff (hroles : roles.Partitioned constants) {adjoint : List Char} :
    adjointRule block roles settings = .ok adjoint ↔ ∃ dense zeroed,
      roles.mutated.mapM (densifyLine (Naming.of block settings) settings) = .ok dense ∧
      roles.mutated.mapM (noGradientLine (Naming.of block settings) settings) = .ok zeroed ∧
      adjoint = ofLines ((dialectLines (Naming.of block settings) settings roles dense zeroed).map
        fun line => lineAt settings line.1 line.2) := by
  rw [adjointRule_eq_lines hroles, bind_eq_ok_iff]
  refine exists_congr fun dense => ?_
  rw [bind_eq_ok_iff]
  constructor
  · rintro ⟨hdense, zeroed, hzeroed, h⟩
    exact ⟨zeroed, hdense, hzeroed, (Except.ok.inj h).symm⟩
  · rintro ⟨zeroed, hdense, hzeroed, rfl⟩
    exact ⟨hdense, zeroed, hzeroed, rfl⟩

lemma fillTemplate_eq_error {template : String} {values : List (String × String)}
    {failure : Failure} (h : fillTemplate template values = .error failure) :
    ∃ fault, failure = .template fault := by
  unfold fillTemplate at h
  split at h
  · nomatch h
  · exact ⟨_, (Except.error.inj h).symm⟩

/-- **Only templates are at fault** when an adjoint rule is not written: neither the gradient nor
the role of a variable is missing. -/
theorem adjointRule_eq_error (hroles : roles.Partitioned constants) {failure : Failure}
    (h : adjointRule block roles settings = .error failure) :
    ∃ fault, failure = .template fault := by
  by_contra hother
  have hfill (template : String) (values : List (String × String)) :
      fillTemplate template values ≠ .error failure :=
    fun hfails => hother (fillTemplate_eq_error hfails)
  have hdense (name : String) :
      densifyLine (Naming.of block settings) settings name ≠ .error failure := by
    intro hfails
    rcases bind_eq_error_iff.mp hfails with hfails | ⟨_, -, hpure⟩
    · exact hfill _ _ hfails
    · nomatch hpure
  have hzeroed (name : String) :
      noGradientLine (Naming.of block settings) settings name ≠ .error failure := by
    intro hfails
    rcases bind_eq_error_iff.mp hfails with hfails | ⟨_, -, hpure⟩
    · exact hfill _ _ hfails
    · nomatch hpure
  rw [adjointRule_eq_lines hroles] at h
  rcases bind_eq_error_iff.mp h with h | ⟨_, -, h⟩
  · exact mapM_ne_error hdense _ h
  rcases bind_eq_error_iff.mp h with h | ⟨_, -, h⟩
  · exact mapM_ne_error hzeroed _ h
  · nomatch h

/-! ## What a rule returns -/

/-- Whether an adjoint rule ends as it should: its inner function returns a slot for each variable,
in the order of the inputs, and it returns the mutated variables with that function. -/
def Artifacts.Returns (artifacts : Artifacts) (naming : Naming) (settings : Settings) : Prop :=
  ∃ before, artifacts.adjoint = ofLines (before ++
    [lineAt settings 2 ("return " ++
      tupleText (artifacts.roles.inputs.map (returnedSlot naming settings artifacts.roles))), [],
    lineAt settings 1 ("return " ++ tupleText artifacts.roles.mutated ++ ", " ++ naming.backward)])

/-- **Every rule that is written returns one slot for each variable.** -/
theorem returns_of_synthesize {artifacts : Artifacts}
    (h : (synthesize block constants settings).result = .ok artifacts) :
    artifacts.Returns (Naming.of block settings) settings := by
  obtain ⟨_, roles, adjoint, -, hsplit, -, hadjoint, rfl⟩ := synthesize_eq_ok_iff.mp h
  obtain ⟨dense, zeroed, -, -, rfl⟩ :=
    (adjointRule_eq_ok_iff (splitRoles_eq_ok hsplit).2).mp hadjoint
  obtain ⟨before, hlines⟩ :=
    exists_dialectLines_eq (Naming.of block settings) settings roles dense zeroed
  refine ⟨before.map fun line => lineAt settings line.1 line.2, ?_⟩
  rw [hlines, List.map_append]
  rfl

end AdjointSynthesis

import AdjointSynthesis.Proofs.Emission
import AdjointSynthesis.Proofs.ReadBack

/-!
# The alignment of the adjoint rule

The definitions written for a block carry several lists of names that must fit each other: the
parameters, the cotangents, the arguments of the engine, what the engine computes and what is
returned.  Read back from the finished texts, they are all the lists of the split of the variables,
in the order of the inputs.

* `Settings.Standard`: accepted names and an indent of blanks, in the dialect that nobody changed.
* `Aligned`: how the lists that were read back relate to the split.
* `lists_aligned`: whenever the definitions are written, their lists are aligned.
-/

namespace AdjointSynthesis

/-! ## Accepted names in the default dialect -/

/-- The settings that generated names and the layout are made with. -/
def Setting.naming : List Setting :=
  [.inplaceSuffix, .gradientStart, .backwardStart, .cotangentName, .indent]

/-- The settings that make up the dialect of the definitions. -/
def Setting.dialect : List Setting :=
  [.registerDecorator, .secondaryEntry, .shadowWrapper, .activeWrapper, .inactiveWrapper,
    .returnActivity, .densifyTemplate, .noGradientTemplate, .zeroLiteral]

/-- Whether names and indent are accepted, the indent is made of blanks and tabs, and the dialect is
the one that nobody changed. -/
structure Settings.Standard (settings : Settings) : Prop where
  accepted : ∀ setting ∈ Setting.naming, ∃ value, settings.get setting = some value ∧
    setting.check value = .ok value
  margin : ∀ c ∈ settings.indent.toList, Text.isMarginal c = true
  dialect : ∀ setting ∈ Setting.dialect, settings.get setting = setting.default?

/-- Whether some inputs, their gradients and the names beside them are words. -/
structure Naming.Words (naming : Naming) (names : List String) : Prop where
  plain : Code.isWord naming.plain.toList = true
  inplace : Code.isWord naming.inplace.toList = true
  backward : Code.isWord naming.backward.toList = true
  cotangent : Code.isWord naming.cotangent.toList = true
  inputs : ∀ name ∈ names, Code.isWord name.toList = true
  gradients : ∀ name ∈ names, Code.isWord (naming.gradient name).toList = true

/-- The settings that nobody changed are standard. -/
lemma standard_default : Settings.default.Standard where
  accepted := by
    intro setting hmem
    simp only [Setting.naming, List.mem_cons, List.not_mem_nil, or_false] at hmem
    rcases hmem with rfl | rfl | rfl | rfl | rfl <;> exact ⟨_, rfl, by decide +kernel⟩
  margin := List.all_eq_true.mp rfl
  dialect := by
    intro setting hmem
    simp only [Setting.dialect, List.mem_cons, List.not_mem_nil, or_false] at hmem
    rcases hmem with rfl | rfl | rfl | rfl | rfl | rfl | rfl | rfl | rfl <;> rfl

lemma isIdentifier_of_checkIdentifier {value found : String}
    (h : checkIdentifier value = .ok found) : Text.isIdentifier value.toList = true := by
  unfold checkIdentifier at h
  split at h
  · assumption
  · cases h

lemma all_part_of_check_inplaceSuffix {value found : String}
    (h : Setting.inplaceSuffix.check value = .ok found) :
    ∀ c ∈ value.toList, Text.isIdentifierPart c = true := by
  simp only [Setting.check] at h
  split at h
  · next hsuffix =>
    have hall := Text.all_part_of_isIdentifier hsuffix.2
    exact fun c hc => List.all_eq_true.mp hall c (List.mem_cons_of_mem _ hc)
  · cases h

section
variable {settings : Settings} (h : settings.Standard)
include h

/-- A setting that must be an identifier is one. -/
lemma Settings.Standard.isIdentifier {setting : Setting} (hmem : setting ∈ Setting.naming)
    (hcheck : setting.check = checkIdentifier) {value : String}
    (hget : settings.get setting = some value) : Text.isIdentifier value.toList = true := by
  obtain ⟨found, hfound, hok⟩ := h.accepted setting hmem
  rw [hget] at hfound
  rw [hcheck, ← Option.some.inj hfound] at hok
  exact isIdentifier_of_checkIdentifier hok

/-- The end of the names of in-place forms goes on with an identifier. -/
lemma Settings.Standard.isIdentifierPart_inplaceSuffix :
    ∀ c ∈ settings.inplaceSuffix.toList, Text.isIdentifierPart c = true := by
  obtain ⟨found, hfound, hok⟩ := h.accepted .inplaceSuffix (by decide)
  obtain rfl := Option.some.inj hfound
  exact all_part_of_check_inplaceSuffix hok

lemma Settings.Standard.words {block : Block}
    (hname : Text.isIdentifier block.name.toList = true) {inputs : List String}
    (hinputs : ∀ name ∈ inputs, Code.isWord name.toList = true) :
    (Naming.of block settings).Words inputs := by
  have hblock := Code.isWord_of_isIdentifier hname
  have identifier {setting : Setting} (hmem : setting ∈ Setting.naming)
      (hcheck : setting.check = checkIdentifier) {value : String}
      (hget : settings.get setting = some value) : Code.isWord value.toList = true :=
    Code.isWord_of_isIdentifier (h.isIdentifier hmem hcheck hget)
  have hgradient : Code.isWord settings.gradientStart.toList = true :=
    identifier (by decide : Setting.gradientStart ∈ Setting.naming) rfl rfl
  have hbackward : Code.isWord settings.backwardStart.toList = true :=
    identifier (by decide : Setting.backwardStart ∈ Setting.naming) rfl rfl
  have hcotangent : Code.isWord settings.cotangentName.toList = true :=
    identifier (by decide : Setting.cotangentName ∈ Setting.naming) rfl rfl
  have hsuffix : ∀ c ∈ settings.inplaceSuffix.toList, Code.isWordPart c = true :=
    fun c hc => Code.isWordPart_of_isIdentifierPart (h.isIdentifierPart_inplaceSuffix c hc)
  have joined {start name : String} (hstart : Code.isWord start.toList = true)
      (hname : Code.isWord name.toList = true) : Code.isWord (start ++ name).toList = true := by
    rw [String.toList_append]
    exact Code.isWord_append hstart (Code.isWord_iff.mp hname).2
  refine ⟨hblock, ?_, joined hbackward hblock, hcotangent, hinputs,
    fun name hmem => joined hgradient (hinputs name hmem)⟩
  rw [Naming.of, String.toList_append]
  exact Code.isWord_append hblock hsuffix

end

/-! ## The lines of an adjoint rule -/

section
variable (naming : Naming) (roles : Roles)

/-- The line that makes a cotangent dense, in the default dialect. -/
def densifyText (name : String) : String :=
  let gradient := naming.gradient name
  gradient ++ " = np.array(" ++ gradient ++ ") if isinstance(" ++ gradient ++ ", Fill) else " ++
    gradient

/-- The line that puts zeros in place of a missing cotangent, in the default dialect. -/
def noGradientText (name : String) : String :=
  let gradient := naming.gradient name
  gradient ++ " = np.zeros_like(" ++ name ++ ") if " ++ gradient ++ " is None else " ++ gradient

/-- The annotated argument of the engine for a variable, in the default dialect. -/
def engineListed (name : String) : Listed :=
  if name ∈ roles.mutated then ⟨"Duplicated", [name, naming.gradient name]⟩
  else if name ∈ roles.constant then ⟨"Const", [name]⟩
  else ⟨"Active", [name]⟩

/-- What the rule returns for a variable, in the default dialect. -/
def slot (name : String) : String :=
  if name ∈ roles.constant then "0.0" else naming.gradient name

/-- The line that the call of the engine begins with, in the default dialect. -/
def engineText (gradients : List String) : String :=
  if gradients = [] then "autodiff(" else tupleText gradients ++ " = autodiff("

/-- The lines of an adjoint rule in the default dialect, with their depths. -/
def ruleTexts : List (Nat × String) :=
  [(0, "@adjoint"), (0, "def " ++ signature naming.plain roles.inputs ++ ":"),
    (1, signature naming.inplace roles.inputs), (0, ""),
    (1, "def " ++ signature naming.backward [naming.cotangent] ++ ":"),
    (2, tupleText (roles.mutated.map naming.gradient) ++ " = " ++ naming.cotangent)] ++
  (roles.mutated.map fun name => (2, densifyText naming name)) ++
  (roles.mutated.map fun name => (2, noGradientText naming name)) ++
  [(2, engineText (roles.active.map naming.gradient)), (3, naming.inplace ++ ","), (3, "Const,")] ++
  (roles.inputs.map fun name =>
    let argument := engineListed naming roles name
    (3, signature argument.name argument.items ++ ",")) ++
  [(2, ")"), (2, "return " ++ tupleText (roles.inputs.map (slot naming roles))), (0, ""),
    (1, "return " ++ tupleText roles.mutated ++ ", " ++ naming.backward)]

end

lemma fillTemplate_densify [Template.Runtime] (gradient : String) :
    fillTemplate Settings.default.densifyTemplate [("grad", gradient)] =
      .ok ("np.array(" ++ gradient ++ ") if isinstance(" ++ gradient ++ ", Fill) else " ++
        gradient) := by
  have hfill (g : List Char) : Template.fill [("grad".toList, g)]
      Settings.default.densifyTemplate.toList = .ok (("np.array(".toList ++ g) ++
        ((") if isinstance(".toList ++ g) ++ ((", Fill) else ".toList ++ g) ++ []))) := rfl
  rw [fillTemplate, List.map_singleton, hfill]
  refine congrArg Except.ok (String.toList_inj.mp ?_)
  simp only [String.toList_ofList, String.toList_append, List.append_assoc, List.append_nil]

lemma fillTemplate_noGradient [Template.Runtime] (gradient name : String) :
    fillTemplate Settings.default.noGradientTemplate [("grad", gradient), ("primal", name)] =
      .ok ("np.zeros_like(" ++ name ++ ") if " ++ gradient ++ " is None else " ++ gradient) := by
  have hfill (g v : List Char) : Template.fill [("grad".toList, g), ("primal".toList, v)]
      Settings.default.noGradientTemplate.toList = .ok (("np.zeros_like(".toList ++ v) ++
        ((") if ".toList ++ g) ++ ((" is None else ".toList ++ g) ++ []))) := rfl
  rw [fillTemplate, List.map_cons, List.map_singleton, hfill]
  refine congrArg Except.ok (String.toList_inj.mp ?_)
  simp only [String.toList_ofList, String.toList_append, List.append_assoc, List.append_nil]

section
variable [Template.Runtime] {block : Block} {roles : Roles} {constants : List String}
  {settings : Settings}

lemma densifyLine_eq (h : settings.densifyTemplate = Settings.default.densifyTemplate)
    (naming : Naming) (name : String) :
    densifyLine naming settings name = .ok (densifyText naming name) := by
  rw [densifyLine, h, fillTemplate_densify]
  simp only [densifyText, String.append_assoc]
  rfl

lemma noGradientLine_eq (h : settings.noGradientTemplate = Settings.default.noGradientTemplate)
    (naming : Naming) (name : String) :
    noGradientLine naming settings name = .ok (noGradientText naming name) := by
  rw [noGradientLine, h, fillTemplate_noGradient]
  simp only [noGradientText, String.append_assoc]
  rfl

/-- Under the default dialect every part of an adjoint rule is as in `ruleTexts`. -/
lemma adjointRule_eq (hroles : roles.Partitioned constants) (hsettings : settings.Standard) :
    adjointRule block roles settings =
      .ok (ofLines ((ruleTexts (Naming.of block settings) roles).map fun text =>
        lineAt settings text.1 text.2)) := by
  have dialect (setting : Setting) (hmem : setting ∈ Setting.dialect) :
      settings.get setting = setting.default? := hsettings.dialect setting hmem
  have hdecorator : settings.registerDecorator = "adjoint" :=
    Option.some.inj (dialect .registerDecorator (by decide))
  have hentry : settings.secondaryEntry = "autodiff" :=
    Option.some.inj (dialect .secondaryEntry (by decide))
  have hshadow : settings.shadowWrapper = "Duplicated" :=
    Option.some.inj (dialect .shadowWrapper (by decide))
  have hactive : settings.activeWrapper = "Active" :=
    Option.some.inj (dialect .activeWrapper (by decide))
  have hinactive : settings.inactiveWrapper = "Const" :=
    Option.some.inj (dialect .inactiveWrapper (by decide))
  have hreturn : settings.returnActivity = none := dialect .returnActivity (by decide)
  have hdensify : settings.densifyTemplate = Settings.default.densifyTemplate :=
    Option.some.inj (dialect .densifyTemplate (by decide))
  have hnoGradient : settings.noGradientTemplate = Settings.default.noGradientTemplate :=
    Option.some.inj (dialect .noGradientTemplate (by decide))
  have hzero : settings.zeroLiteral = "0.0" := Option.some.inj (dialect .zeroLiteral (by decide))
  have hdense : roles.mutated.mapM (densifyLine (Naming.of block settings) settings) =
      .ok (roles.mutated.map (densifyText (Naming.of block settings))) :=
    mapM_eq_pure fun name _ => densifyLine_eq hdensify _ name
  have hzeroed : roles.mutated.mapM (noGradientLine (Naming.of block settings) settings) =
      .ok (roles.mutated.map (noGradientText (Naming.of block settings))) :=
    mapM_eq_pure fun name _ => noGradientLine_eq hnoGradient _ name
  have hargument (name : String) :
      argumentText (Naming.of block settings) settings roles name =
        let argument := engineListed (Naming.of block settings) roles name
        signature argument.name argument.items ++ "," := by
    unfold argumentText engineListed
    split_ifs with hmutated hconstant
    · simp only [signature, hshadow, String.intercalate_cons_cons, String.intercalate_singleton,
        String.append_assoc]
      rfl
    · simp only [signature, hinactive, String.intercalate_singleton, String.append_assoc]
      rfl
    · simp only [signature, hactive, String.intercalate_singleton, String.append_assoc]
      rfl
  have hhead : engineHead settings (roles.active.map (Naming.of block settings).gradient) =
      engineText (roles.active.map (Naming.of block settings).gradient) := by
    unfold engineHead engineText
    dsimp only
    rw [hentry]
    split_ifs with hempty hnil hnil
    · rfl
    · exact absurd (List.isEmpty_iff.mp hempty) hnil
    · exact absurd (List.isEmpty_iff.mpr hnil) hempty
    · rw [String.append_assoc]
      rfl
  have hwrapper : settings.returnWrapper = "Const" := by
    rw [Settings.returnWrapper, hreturn, hinactive]
    rfl
  have hslots : roles.inputs.map (returnedSlot (Naming.of block settings) settings roles) =
      roles.inputs.map (slot (Naming.of block settings) roles) := by
    refine List.map_congr_left fun name _ => ?_
    rw [returnedSlot, slot, hzero]
    simp only [List.contains_iff_mem]
  have hbackward : "def " ++ (Naming.of block settings).backward ++ "(" ++
      (Naming.of block settings).cotangent ++ "):" = "def " ++
        signature (Naming.of block settings).backward [(Naming.of block settings).cotangent] ++
          ":" := by
    rw [signature, String.intercalate_singleton]
    simp only [String.append_assoc]
    rfl
  have hactivity : (if settings.returnWrapper = "" then []
      else [(3, settings.returnWrapper ++ ",")]) = [(3, "Const,")] := by
    rw [hwrapper, if_neg (by decide)]
    rfl
  have hdecorate : "@" ++ "adjoint" = "@adjoint" := rfl
  rw [adjointRule_eq_lines hroles]
  dsimp only
  rw [hdense, hzeroed]
  refine congrArg (fun lines : List (Nat × String) => Except.ok (ofLines (lines.map fun text =>
    lineAt settings text.1 text.2))) ?_
  rw [dialectLines, hhead, hactivity, hslots, hdecorator, hdecorate, hbackward]
  simp only [ruleTexts, hargument, List.map_append, List.map_map, Function.comp_def,
    List.append_assoc, List.cons_append, List.nil_append]

end

/-! ## Reading the lines -/

/-- A text that can be put on a line and found again behind the margin. -/
structure IsLine (text : String) : Prop where
  newline : '\n' ∉ text.toList
  start : ∀ c ∈ text.toList.head?, Text.isMarginal c = false

lemma isLine_of_head {text : String} (hnewline : '\n' ∉ text.toList)
    (hhead : text.toList.head?.all (fun c => !Text.isMarginal c) = true) : IsLine text where
  newline := hnewline
  start := by
    intro c hc
    rw [Option.mem_def.mp hc] at hhead
    simpa using hhead

lemma isLine_append {start rest : String} (h : IsLine start) (hne : start ≠ "")
    (hrest : '\n' ∉ rest.toList) : IsLine (start ++ rest) where
  newline := by
    rw [String.toList_append]
    exact List.not_mem_append h.newline hrest
  start := by
    intro c hc
    obtain ⟨first, more, heq⟩ := List.exists_cons_of_ne_nil
      (fun hnil => hne (String.toList_eq_nil_iff.mp hnil) : start.toList ≠ [])
    rw [String.toList_append, heq] at hc
    exact h.start c (by rw [heq]; exact hc)

lemma IsPlain.isLine {name : String} (h : IsPlain name) : IsLine name where
  newline := h.not_mem rfl
  start := by
    intro c hc
    have hsign := h.2 c (List.mem_of_mem_head? hc)
    simp only [isSign, Bool.or_eq_false_iff, beq_eq_false_iff_ne] at hsign
    simp [Text.isMarginal, hsign]

lemma newline_not_mem_signature {name : String} {items : List String} (hname : IsPlain name)
    (hitems : ∀ item ∈ items, IsPlain item) : '\n' ∉ (signature name items).toList := by
  intro hmem
  rcases mem_of_mem_signature hmem with hmem | hmem | ⟨item, hitem, hmem⟩
  · exact absurd hmem (by decide)
  · exact hname.not_mem rfl hmem
  · exact (hitems item hitem).not_mem rfl hmem

lemma newline_not_mem_tupleText {items : List String} (hitems : ∀ item ∈ items, IsPlain item) :
    '\n' ∉ (tupleText items).toList := by
  intro hmem
  rcases mem_of_mem_tupleText hmem with hmem | ⟨item, hitem, hmem⟩
  · exact absurd hmem (by decide)
  · exact (hitems item hitem).not_mem rfl hmem

lemma isLine_signature {name : String} {items : List String} (hname : IsPlain name)
    (hitems : ∀ item ∈ items, IsPlain item) : IsLine (signature name items) := by
  have hnewline := newline_not_mem_signature hname hitems
  have hsplit : signature name items = name ++ ("(" ++ ", ".intercalate items ++ ")") := by
    simp only [signature, String.append_assoc]
  rw [hsplit, String.toList_append] at hnewline
  rw [hsplit]
  exact isLine_append hname.isLine hname.1 fun hmem => hnewline (List.mem_append_right _ hmem)

lemma isLine_tupleText {items : List String} (hitems : ∀ item ∈ items, IsPlain item) :
    IsLine (tupleText items) where
  newline := newline_not_mem_tupleText hitems
  start := by
    intro c hc
    rw [toList_tupleText] at hc
    obtain rfl := Option.some.inj hc
    rfl

lemma ne_empty_tupleText (items : List String) : tupleText items ≠ "" := by
  intro hempty
  have := toList_tupleText items
  rw [hempty] at this
  cases this

lemma ne_empty_signature (name : String) (items : List String) : signature name items ≠ "" := by
  simp [signature]

section
variable {settings : Settings}

lemma isMargin_indentation (h : settings.Standard) (depth : Nat) :
    ∀ c ∈ indentation settings depth, Text.isMarginal c = true := by
  intro c hc
  obtain ⟨part, hpart, hmem⟩ := List.mem_flatten.mp hc
  rw [List.eq_of_mem_replicate hpart] at hmem
  exact h.margin c hmem

lemma newline_not_mem_lineAt (h : settings.Standard) (depth : Nat) {text : String}
    (htext : '\n' ∉ text.toList) : '\n' ∉ lineAt settings depth text := by
  unfold lineAt
  split
  · exact List.not_mem_nil
  · refine List.not_mem_append (fun hmem => ?_) htext
    cases isMargin_indentation h depth _ hmem

lemma withoutMargin_lineAt (h : settings.Standard) (depth : Nat) {text : String}
    (htext : IsLine text) : withoutMargin (lineAt settings depth text) = text.toList := by
  unfold lineAt
  split
  · next hempty => rw [hempty]; rfl
  · next hempty =>
    rw [withoutMargin, List.dropWhile_append_of_pos (isMargin_indentation h depth)]
    obtain ⟨c, rest, heq⟩ := List.exists_cons_of_ne_nil
      (fun hnil => hempty (String.toList_eq_nil_iff.mp hnil) : text.toList ≠ [])
    have hc := htext.start c (by rw [heq]; rfl)
    rw [heq, List.dropWhile_cons_of_neg (by simp [hc])]

/-- The lines of a text are read back without their margins. -/
lemma withoutMargin_textLines (h : settings.Standard) {texts : List (Nat × String)}
    (hne : texts ≠ []) (htexts : ∀ text ∈ texts, IsLine text.2) :
    (textLines (ofLines (texts.map fun text => lineAt settings text.1 text.2))).map withoutMargin =
      texts.map fun text => text.2.toList := by
  rw [textLines_ofLines (fun hnil => hne (List.map_eq_nil_iff.mp hnil)), List.map_map]
  · exact List.map_congr_left fun text hmem => withoutMargin_lineAt h text.1 (htexts text hmem)
  · intro line hline
    obtain ⟨text, hmem, rfl⟩ := List.mem_map.mp hline
    exact newline_not_mem_lineAt h text.1 (htexts text hmem).newline

end

section
variable {naming : Naming} {roles : Roles} {constants : List String}

lemma isPlain_engineListed (hwords : naming.Words roles.inputs) {name : String}
    (hname : name ∈ roles.inputs) :
    IsPlain (engineListed naming roles name).name ∧
      ∀ item ∈ (engineListed naming roles name).items, IsPlain item := by
  have hplain := isPlain_of_isWord (hwords.inputs name hname)
  have hgradient := isPlain_of_isWord (hwords.gradients name hname)
  unfold engineListed
  split
  · refine ⟨isPlain_of_isWord (show Code.isWord "Duplicated".toList = true from rfl),
      fun item hitem => ?_⟩
    rcases List.mem_cons.mp hitem with rfl | hitem
    · exact hplain
    · exact List.mem_singleton.mp hitem ▸ hgradient
  · split
    · exact ⟨isPlain_of_isWord (show Code.isWord "Const".toList = true from rfl),
        fun item hitem => List.mem_singleton.mp hitem ▸ hplain⟩
    · exact ⟨isPlain_of_isWord (show Code.isWord "Active".toList = true from rfl),
        fun item hitem => List.mem_singleton.mp hitem ▸ hplain⟩

lemma isPlain_slot (hwords : naming.Words roles.inputs) {name : String}
    (hname : name ∈ roles.inputs) : IsPlain (slot naming roles name) := by
  unfold slot
  split
  · refine ⟨by decide, fun c hc => ?_⟩
    have hall : "0.0".toList.all (fun c => !isSign c) = true := rfl
    simpa using List.all_eq_true.mp hall c hc
  · exact isPlain_of_isWord (hwords.gradients name hname)

lemma opensBracket_append {name : String} (hname : IsPlain name) (start : String) :
    opensBracket (start ++ name).toList = false := by
  have hbracket := hname.not_mem (show isSign '(' = true from rfl)
  unfold opensBracket
  rw [String.toList_append, List.getLast?_append_of_ne_nil _ hname.toList_ne_nil,
    beq_eq_false_iff_ne]
  exact fun hlast => hbracket (List.mem_of_getLast? hlast)

lemma opensBracket_engineText (gradients : List String) :
    opensBracket (engineText gradients).toList = true := by
  unfold engineText opensBracket
  split
  · rfl
  · rw [String.toList_append, List.getLast?_append_of_ne_nil _ (by decide)]
    rfl

/-- The lines before the call of the engine do not open a bracket. -/
lemma dropWhile_opensBracket (hroles : roles.Partitioned constants)
    (hwords : naming.Words roles.inputs) (gradients : List String) (tail : List (List Char)) :
    ((roles.mutated.map fun name => (densifyText naming name).toList) ++
      ((roles.mutated.map fun name => (noGradientText naming name).toList) ++
        (engineText gradients).toList :: tail)).dropWhile (fun line => !opensBracket line) =
      (engineText gradients).toList :: tail := by
  have hgradient (name : String) (hname : name ∈ roles.mutated) : IsPlain (naming.gradient name) :=
    isPlain_of_isWord (hwords.gradients name (hroles.mem_inputs_of_mutated hname))
  rw [List.dropWhile_append_of_pos, List.dropWhile_append_of_pos, List.dropWhile_cons_of_neg]
  · simp [opensBracket_engineText]
  · intro line hline
    obtain ⟨name, hname, rfl⟩ := List.mem_map.mp hline
    rw [noGradientText, opensBracket_append (hgradient name hname)]
    rfl
  · intro line hline
    obtain ⟨name, hname, rfl⟩ := List.mem_map.mp hline
    rw [densifyText, opensBracket_append (hgradient name hname)]
    rfl

/-- The line of an argument of the engine. -/
def argumentLine (naming : Naming) (roles : Roles) (name : String) : List Char :=
  (signature (engineListed naming roles name).name (engineListed naming roles name).items ++
    ",").toList

/-- No argument of the engine looks like the end of its call. -/
lemma argumentLine_ne (naming : Naming) (roles : Roles) (name : String) :
    (argumentLine naming roles name != ")".toList) = true := by
  have hlength : 2 ≤ (argumentLine naming roles name).length := by
    simp [argumentLine, signature]
    omega
  refine bne_iff_ne.mpr fun heq => ?_
  rw [heq] at hlength
  exact absurd hlength (by decide)

/-- Every line of an adjoint rule can be read back. -/
lemma isLine_of_mem_ruleTexts (hroles : roles.Partitioned constants)
    (hwords : naming.Words roles.inputs) :
    ∀ text ∈ ruleTexts naming roles, IsLine text.2 := by
  have hplain := isPlain_of_isWord hwords.plain
  have hinplace := isPlain_of_isWord hwords.inplace
  have hbackward := isPlain_of_isWord hwords.backward
  have hcotangent := isPlain_of_isWord hwords.cotangent
  have hinputs : ∀ name ∈ roles.inputs, IsPlain name :=
    fun name hname => isPlain_of_isWord (hwords.inputs name hname)
  have hgradient : ∀ name ∈ roles.inputs, IsPlain (naming.gradient name) :=
    fun name hname => isPlain_of_isWord (hwords.gradients name hname)
  have hdefinition : IsLine "def " := isLine_of_head (by decide) (by decide)
  have hreturn : IsLine "return " := isLine_of_head (by decide) (by decide)
  have hnewline {start rest : String} (hstart : '\n' ∉ start.toList) (hrest : '\n' ∉ rest.toList) :
      '\n' ∉ (start ++ rest).toList := by
    rw [String.toList_append]
    exact List.not_mem_append hstart hrest
  have hgradients (names : List String) (hnames : ∀ name ∈ names, name ∈ roles.inputs) :
      ∀ item ∈ names.map naming.gradient, IsPlain item := by
    intro item hitem
    obtain ⟨name, hname, rfl⟩ := List.mem_map.mp hitem
    exact hgradient name (hnames name hname)
  intro text htext
  simp only [ruleTexts, List.mem_append, List.mem_cons, List.not_mem_nil, or_false,
    List.mem_map] at htext
  rcases htext with (((((rfl | rfl | rfl | rfl | rfl | rfl) | ⟨name, hname, rfl⟩) |
    ⟨name, hname, rfl⟩) | rfl | rfl | rfl) | ⟨name, hname, rfl⟩) | rfl | rfl | rfl | rfl
  · exact isLine_of_head (by decide) (by decide)
  · rw [String.append_assoc]
    exact isLine_append hdefinition (by decide)
      (hnewline (newline_not_mem_signature hplain hinputs) (by decide))
  · exact isLine_signature hinplace hinputs
  · exact isLine_of_head (by decide) (by decide)
  · rw [String.append_assoc]
    refine isLine_append hdefinition (by decide)
      (hnewline (newline_not_mem_signature hbackward fun item hitem => ?_) (by decide))
    exact List.mem_singleton.mp hitem ▸ hcotangent
  · rw [String.append_assoc]
    exact isLine_append (isLine_tupleText (hgradients _ fun name => hroles.mem_inputs_of_mutated))
      (ne_empty_tupleText _) (hnewline (by decide) (hcotangent.not_mem rfl))
  · have hgradient := hgradient name (hroles.mem_inputs_of_mutated hname)
    simp only [densifyText, String.append_assoc]
    refine isLine_append hgradient.isLine hgradient.1 ?_
    exact hnewline (by decide) (hnewline (hgradient.not_mem rfl) (hnewline (by decide)
      (hnewline (hgradient.not_mem rfl) (hnewline (by decide) (hgradient.not_mem rfl)))))
  · have hinput := hinputs name (hroles.mem_inputs_of_mutated hname)
    have hgradient := hgradient name (hroles.mem_inputs_of_mutated hname)
    simp only [noGradientText, String.append_assoc]
    refine isLine_append hgradient.isLine hgradient.1 ?_
    exact hnewline (by decide) (hnewline (hinput.not_mem rfl) (hnewline (by decide)
      (hnewline (hgradient.not_mem rfl) (hnewline (by decide) (hgradient.not_mem rfl)))))
  · unfold engineText
    split
    · exact isLine_of_head (by decide) (by decide)
    · exact isLine_append (isLine_tupleText (hgradients _ fun name => hroles.mem_inputs_of_active))
        (ne_empty_tupleText _) (by decide)
  · exact isLine_append hinplace.isLine hinplace.1 (by decide)
  · exact isLine_of_head (by decide) (by decide)
  · obtain ⟨hname, hitems⟩ := isPlain_engineListed hwords hname
    exact isLine_append (isLine_signature hname hitems) (ne_empty_signature _ _) (by decide)
  · exact isLine_of_head (by decide) (by decide)
  · refine isLine_append hreturn (by decide) (newline_not_mem_tupleText fun item hitem => ?_)
    obtain ⟨name, hname, rfl⟩ := List.mem_map.mp hitem
    exact isPlain_slot hwords hname
  · exact isLine_of_head (by decide) (by decide)
  · rw [String.append_assoc, String.append_assoc]
    have hmutated := newline_not_mem_tupleText
      fun name hname => hinputs name (hroles.mem_inputs_of_mutated hname)
    exact isLine_append hreturn (by decide)
      (hnewline hmutated (hnewline (by decide) (hbackward.not_mem rfl)))

/-- The lists of an adjoint rule in the default dialect. -/
def RuleLists.ofRoles (naming : Naming) (roles : Roles) : RuleLists where
  definition := ⟨naming.plain, roles.inputs⟩
  replay := ⟨naming.inplace, roles.inputs⟩
  cotangents := roles.mutated.map naming.gradient
  computed := if roles.active = [] then none else some (roles.active.map naming.gradient)
  arguments := roles.inputs.map (engineListed naming roles)
  slots := roles.inputs.map (slot naming roles)
  values := roles.mutated

/-- **The lists of an adjoint rule are read back from its lines.** -/
theorem read?_ruleTexts {settings : Settings} (hsettings : settings.Standard)
    (hroles : roles.Partitioned constants) (hwords : naming.Words roles.inputs) :
    RuleLists.read? (ofLines ((ruleTexts naming roles).map fun text =>
        lineAt settings text.1 text.2)) =
      some (RuleLists.ofRoles naming roles) := by
  have hplain := isPlain_of_isWord hwords.plain
  have hinplace := isPlain_of_isWord hwords.inplace
  have hinputs : ∀ name ∈ roles.inputs, IsPlain name :=
    fun name hname => isPlain_of_isWord (hwords.inputs name hname)
  have hgradients (names : List String) (hnames : ∀ name ∈ names, name ∈ roles.inputs) :
      ∀ item ∈ names.map naming.gradient, IsPlain item := by
    intro item hitem
    obtain ⟨name, hname, rfl⟩ := List.mem_map.mp hitem
    exact isPlain_of_isWord (hwords.gradients name (hnames name hname))
  unfold RuleLists.read?
  rw [withoutMargin_textLines hsettings (by simp [ruleTexts])
    (isLine_of_mem_ruleTexts hroles hwords)]
  simp only [ruleTexts, List.map_append, List.map_cons, List.map_nil, List.map_map,
    Function.comp_def, List.append_assoc, List.cons_append, List.nil_append]
  have hdefinition : readListed? "def ".toList ":".toList
      ("def " ++ signature naming.plain roles.inputs ++ ":").toList =
        some ⟨naming.plain, roles.inputs⟩ := by
    rw [String.toList_append, String.toList_append]
    exact readListed?_signature (by decide) _ hplain hinputs
  have hreplay : readListed? [] [] (signature naming.inplace roles.inputs).toList =
      some ⟨naming.inplace, roles.inputs⟩ := by
    have := readListed?_signature (show '(' ∉ [] from List.not_mem_nil) [] hinplace hinputs
    simpa using this
  have hcotangents : readTuple? [] (tupleText (roles.mutated.map naming.gradient) ++ " = " ++
      naming.cotangent).toList =
        some (roles.mutated.map naming.gradient, (" = " ++ naming.cotangent).toList) := by
    rw [String.append_assoc, String.toList_append]
    exact readTuple?_tupleText List.not_mem_nil _
      (hgradients _ fun name => hroles.mem_inputs_of_mutated)
  have hcomputed : (readTuple? [] (engineText (roles.active.map naming.gradient)).toList).map
      Prod.fst = if roles.active = [] then none else some (roles.active.map naming.gradient) := by
    unfold engineText
    by_cases hnone : roles.active = []
    · rw [hnone, if_pos rfl, List.map_nil, if_pos rfl]
      decide
    · rw [if_neg fun hnil => hnone (List.map_eq_nil_iff.mp hnil), if_neg hnone,
        String.toList_append]
      exact congrArg (Option.map Prod.fst) (readTuple?_tupleText List.not_mem_nil _
        (hgradients _ fun name => hroles.mem_inputs_of_active))
  have harguments : (roles.inputs.map (argumentLine naming roles)).mapM
      (readListed? [] ",".toList) = some (roles.inputs.map (engineListed naming roles)) := by
    rw [List.mapM_map]
    refine mapM_eq_pure fun name hname => ?_
    obtain ⟨hname, hitems⟩ := isPlain_engineListed hwords hname
    rw [Function.comp_apply, argumentLine, String.toList_append]
    exact readListed?_signature List.not_mem_nil _ hname hitems
  have hslots : readTuple? "return ".toList
      ("return " ++ tupleText (roles.inputs.map (slot naming roles))).toList =
        some (roles.inputs.map (slot naming roles), []) := by
    have hitems : ∀ item ∈ roles.inputs.map (slot naming roles), IsPlain item := by
      intro item hitem
      obtain ⟨name, hname, rfl⟩ := List.mem_map.mp hitem
      exact isPlain_slot hwords hname
    have := readTuple?_tupleText (show '(' ∉ "return ".toList by decide) [] hitems
    rwa [List.append_nil, ← String.toList_append] at this
  have hvalues : readTuple? "return ".toList
      ("return " ++ tupleText roles.mutated ++ ", " ++ naming.backward).toList =
        some (roles.mutated, (", " ++ naming.backward).toList) := by
    rw [String.append_assoc, String.toList_append, String.toList_append]
    exact readTuple?_tupleText (by decide) _
      fun name hname => hinputs name (hroles.mem_inputs_of_mutated hname)
  rw [dropWhile_opensBracket hroles hwords]
  dsimp only
  have hlines : (roles.inputs.map fun name => (signature (engineListed naming roles name).name
      (engineListed naming roles name).items ++ ",").toList) =
        roles.inputs.map (argumentLine naming roles) := rfl
  have hnotClosing : ∀ line ∈ roles.inputs.map (argumentLine naming roles),
      (line != ")".toList) = true := by
    intro line hline
    obtain ⟨name, -, rfl⟩ := List.mem_map.mp hline
    exact argumentLine_ne naming roles name
  rw [hlines, List.dropWhile_append_of_pos hnotClosing, List.takeWhile_append_of_pos hnotClosing,
    List.dropWhile_cons_of_neg (by simp), List.takeWhile_cons_of_neg (by simp), List.append_nil]
  dsimp only
  rw [hdefinition, hreplay, hcotangents, hcomputed, harguments, hslots, hvalues]
  rfl

end

/-! ## Reading the two forms -/

section
variable {block : Block} {settings : Settings} {name returned : String} {parameters : List String}

lemma textLines_functionForm (hsettings : settings.Standard) (hname : IsPlain name)
    (hparameters : ∀ item ∈ parameters, IsPlain item) (hreturned : '\n' ∉ returned.toList) :
    textLines (functionForm block settings name parameters returned) =
      lineAt settings 0 ("def " ++ signature name parameters ++ ":") ::
        (linesAt settings 1 block.text ++ [lineAt settings 1 ("return " ++ returned)]) := by
  have hsignature := newline_not_mem_signature hname hparameters
  refine textLines_ofLines (List.cons_ne_nil _ _) fun line hline => ?_
  rw [List.append_assoc] at hline
  rcases List.mem_append.mp hline with hline | hline
  · obtain rfl := List.mem_singleton.mp hline
    refine newline_not_mem_lineAt hsettings 0 ?_
    rw [String.toList_append, String.toList_append]
    exact List.not_mem_append (List.not_mem_append (by decide) hsignature) (by decide)
  · rcases List.mem_append.mp hline with hline | hline
    · exact Text.not_mem_of_mem_splitLines rfl hline
    · obtain rfl := List.mem_singleton.mp hline
      refine newline_not_mem_lineAt hsettings 1 ?_
      rw [String.toList_append]
      exact List.not_mem_append (by decide) hreturned

lemma definedBy?_functionForm (hsettings : settings.Standard) (hname : IsPlain name)
    (hparameters : ∀ item ∈ parameters, IsPlain item) (hreturned : '\n' ∉ returned.toList) :
    definedBy? (functionForm block settings name parameters returned) =
      some ⟨name, parameters⟩ := by
  have hne : "def " ++ signature name parameters ++ ":" ≠ "" := by simp
  rw [definedBy?, textLines_functionForm hsettings hname hparameters hreturned, List.head?_cons,
    Option.bind_some, lineAt, if_neg hne, String.toList_append, String.toList_append]
  exact readListed?_signature (by decide) _ hname hparameters

lemma returnedBy?_functionForm (hsettings : settings.Standard) (hname : IsPlain name)
    (hparameters : ∀ item ∈ parameters, IsPlain item) {items : List String}
    (hitems : ∀ item ∈ items, IsPlain item) :
    returnedBy? (functionForm block settings name parameters (tupleText items)) = some items := by
  have hline : IsLine ("return " ++ tupleText items) :=
    isLine_append (isLine_of_head (by decide) (by decide)) (by decide)
      (newline_not_mem_tupleText hitems)
  have hread := readTuple?_tupleText (show '(' ∉ "return ".toList by decide) [] hitems
  rw [List.append_nil, ← String.toList_append] at hread
  rw [returnedBy?, textLines_functionForm hsettings hname hparameters
    (newline_not_mem_tupleText hitems), ← List.cons_append, List.getLast?_concat,
    Option.bind_some, withoutMargin_lineAt hsettings 1 hline, hread]
  rfl

end

/-! ## The lists of the definitions -/

lemma filter_engineListed {naming : Naming} {roles : Roles} {constants : List String}
    (hroles : roles.Partitioned constants) :
    (roles.inputs.map (engineListed naming roles)).filter (·.name == "Active") =
      roles.active.map fun name => ⟨"Active", [name]⟩ := by
  have hactive (name : String) : ((engineListed naming roles name).name == "Active") =
      (!roles.mutated.contains name && !roles.constant.contains name) := by
    unfold engineListed
    by_cases hmutated : name ∈ roles.mutated
    · simp [hmutated]
    · by_cases hconstant : name ∈ roles.constant
      · simp [hmutated, hconstant]
      · simp [hmutated, hconstant]
  rw [List.filter_map, Function.comp_def, funext hactive, ← hroles.active_eq]
  refine List.map_congr_left fun name hname => ?_
  obtain ⟨hmutated, hconstant⟩ :=
    (hroles.mem_active_iff (hroles.mem_inputs_of_active hname)).mp hname
  rw [engineListed, if_neg hmutated, if_neg hconstant]

/-- How the lists read back from the three definitions of a block relate to the split of its
variables. -/
structure Aligned (naming : Naming) (roles : Roles) (inplace returning : List Char)
    (rule : RuleLists) : Prop where
  inplace_parameters : definedBy? inplace = some ⟨naming.inplace, roles.inputs⟩
  returning_parameters : definedBy? returning = some ⟨naming.plain, roles.inputs⟩
  rule_parameters : rule.definition = ⟨naming.plain, roles.inputs⟩
  replay_arguments : rule.replay = ⟨naming.inplace, roles.inputs⟩
  cotangents_eq : rule.cotangents = roles.mutated.map naming.gradient
  returned_eq : returnedBy? returning = some roles.mutated
  values_eq : rule.values = roles.mutated
  /-- The engine takes one argument for each input, annotated by its role. -/
  arguments_eq : rule.arguments = roles.inputs.map fun name =>
    if name ∈ roles.mutated then ⟨"Duplicated", [name, naming.gradient name]⟩
    else if name ∈ roles.constant then ⟨"Const", [name]⟩
    else ⟨"Active", [name]⟩
  /-- The active arguments, in their order, are the active variables. -/
  active_eq : rule.arguments.filter (fun argument => argument.name == "Active") =
    roles.active.map fun name => ⟨"Active", [name]⟩
  computed_eq : rule.computed =
    if roles.active = [] then none else some (roles.active.map naming.gradient)
  slots_eq : rule.slots = roles.inputs.map fun name =>
    if name ∈ roles.constant then "0.0" else naming.gradient name
  /-- No gradient can be mistaken for the zero of a constant. -/
  zero_not_gradient : "0.0" ∉ roles.inputs.map naming.gradient

section
variable {block : Block} {constants : List String} {settings : Settings} {artifacts : Artifacts}

/-- **The lists of the definitions are aligned**: for every block named by an identifier, whatever
is constant, the definitions written with accepted names in the default dialect carry the lists of
the split of the variables, all in the order of the inputs. -/
theorem lists_aligned [Template.Runtime] (hname : Text.isIdentifier block.name.toList = true)
    (hsettings : settings.Standard)
    (h : (synthesize block constants settings).result = .ok artifacts) :
    artifacts.roles.Partitioned constants ∧
      ∃ rule, RuleLists.read? artifacts.adjoint = some rule ∧
        Aligned (Naming.of block settings) artifacts.roles artifacts.inplace artifacts.returning
          rule := by
  obtain ⟨usage, roles, adjoint, husage, hsplit, -, hadjoint, rfl⟩ := synthesize_eq_ok_iff.mp h
  dsimp only
  obtain ⟨hinputs, hroles⟩ := splitRoles_eq_ok hsplit
  have hwords : (Naming.of block settings).Words roles.inputs := by
    refine hsettings.words hname fun name hmem => ?_
    rw [hinputs] at hmem
    exact Usage.isWord_of_mem_referenced husage
      (List.contains_iff_mem.mp (List.mem_filter.mp hmem).2)
  have hplain := isPlain_of_isWord hwords.plain
  have hinplaceName := isPlain_of_isWord hwords.inplace
  have hparameters : ∀ name ∈ roles.inputs, IsPlain name :=
    fun name hmem => isPlain_of_isWord (hwords.inputs name hmem)
  have hmutated : ∀ name ∈ roles.mutated, IsPlain name :=
    fun name hmem => hparameters name (hroles.mem_inputs_of_mutated hmem)
  refine ⟨hroles, RuleLists.ofRoles (Naming.of block settings) roles, ?_, ?_⟩
  · rw [adjointRule_eq hroles hsettings] at hadjoint
    rw [← Except.ok.inj hadjoint]
    exact read?_ruleTexts hsettings hroles hwords
  · refine ⟨?_, ?_, rfl, rfl, rfl, ?_, rfl, rfl, ?_, rfl, rfl, ?_⟩
    · exact definedBy?_functionForm hsettings hinplaceName hparameters (by decide)
    · exact definedBy?_functionForm hsettings hplain hparameters
        (newline_not_mem_tupleText hmutated)
    · exact returnedBy?_functionForm hsettings hplain hparameters hmutated
    · exact filter_engineListed hroles
    · intro hzero
      obtain ⟨name, hmem, heq⟩ := List.mem_map.mp hzero
      have := hwords.gradients name hmem
      rw [heq] at this
      cases this

attribute [local instance] Template.Runtime.bare

/-- A block with variables of all three roles. -/
theorem lists_aligned_three_roles : ∃ artifacts,
    (synthesize ⟨"a[0] = b * c\nd[0] += c\n".toList, "f",
      .ofNames ["a", "b", "c", "d", "e"] .array, false⟩ ["b"] .default).result = .ok artifacts ∧
    artifacts.roles.Partitioned ["b"] ∧
      ∃ rule, RuleLists.read? artifacts.adjoint = some rule ∧
        Aligned ⟨"f", "f_", "back_f", "cotangents", "dz_"⟩ artifacts.roles artifacts.inplace
          artifacts.returning rule := by
  have hok : (synthesize ⟨"a[0] = b * c\nd[0] += c\n".toList, "f",
      .ofNames ["a", "b", "c", "d", "e"] .array, false⟩ ["b"] .default).result.isOk = true := by
    decide +kernel
  cases h : (synthesize ⟨"a[0] = b * c\nd[0] += c\n".toList, "f",
      .ofNames ["a", "b", "c", "d", "e"] .array, false⟩ ["b"] .default).result with
  | ok artifacts => exact ⟨artifacts, rfl, lists_aligned (by decide) standard_default h⟩
  | error failure =>
    rw [h] at hok
    cases hok

end

end AdjointSynthesis

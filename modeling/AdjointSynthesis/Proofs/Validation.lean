import AdjointSynthesis.Proofs.Reordering
import AdjointSynthesis.Proofs.Settings
import AdjointSynthesis.Proofs.Templates
import AdjointSynthesis.Settings.Reader

/-!
# Settings from all sources

Settings may come from fields, from variables and from a file at once.  Whatever the mixture is,
either each setting that is refused is named, once and in the order of declaration, or there are
settings that meet all conditions.  Those are accepted as they are when they are given again.

* `Setting.Allows`: the texts that a setting may have.
* `Setting.Refuses`: what a setting may not be given.
* `Settings.Valid`: the conditions on settings as a whole.
* `Settings.ofSources_eq_ok_iff`, `Settings.ofSources_eq_error`: what sources give.
* `Settings.validated`: both outcomes, for all three sources.
-/

namespace AdjointSynthesis

/-! ## Single settings -/

namespace Setting

/-- Whether a setting may have a text. -/
def Allows (setting : Setting) (value : String) : Prop :=
  match setting with
  | .gradientStart | .backwardStart | .cotangentName => Text.isIdentifier value.toList = true
  | .inplaceSuffix => value ≠ "" ∧ Text.isIdentifier ('f' :: value.toList) = true
  | .indent => value ≠ "" ∧ ∀ c ∈ value.toList, Text.isBlank c = true
  | .densifyTemplate => "\x7bgrad\x7d".toList <:+: value.toList
  | .noGradientTemplate =>
    "\x7bgrad\x7d".toList <:+: value.toList ∧ "\x7bprimal\x7d".toList <:+: value.toList
  | .logLevel => Text.upperCase value ∈ levels.map Prod.fst
  | _ => True

/-- Whether a setting is refused what a source gives for it. -/
def Refuses (setting : Setting) : Given → Prop
  | .text value => ¬setting.Allows value
  | .nothing => setting ≠ .returnActivity
  | .other => True

lemma exists_ite_eq_ok_iff {test : Prop} [Decidable test] {value : String} {problem : Problem} :
    (∃ found, (if test then .ok value else .error problem : Except Problem String) = .ok found) ↔
      test := by
  split <;> simp_all

/-- A check lets through what a setting may have. -/
lemma exists_check_eq_ok_iff {setting : Setting} {value : String} :
    (∃ found, setting.check value = .ok found) ↔ setting.Allows value := by
  cases setting with
  | gradientStart | backwardStart | cotangentName | inplaceSuffix => exact exists_ite_eq_ok_iff
  | indent =>
    refine exists_ite_eq_ok_iff.trans ?_
    rw [Allows, List.all_eq_true]
  | densifyTemplate => exact exists_ite_eq_ok_iff.trans Template.occursIn_iff
  | noGradientTemplate =>
    exact exists_ite_eq_ok_iff.trans (and_congr Template.occursIn_iff Template.occursIn_iff)
  | logLevel =>
    refine exists_ite_eq_ok_iff.trans ?_
    rw [Allows, List.lookup_isSome_iff, List.mem_map]
    exact exists_congr fun entry => and_congr_right fun _ => beq_iff_eq.trans eq_comm
  | registerDecorator | secondaryEntry | shadowWrapper | activeWrapper | inactiveWrapper
  | returnActivity | zeroLiteral => exact iff_of_true ⟨value, rfl⟩ trivial

variable {setting : Setting} {sources : List Source}

/-- A setting has no value if it is refused what the first source that knows it gives. -/
lemma exists_value_eq_error_iff :
    (∃ refusal, setting.value sources = .error refusal) ↔
      ∃ given ∈ resolve? sources setting, setting.Refuses given := by
  cases hgiven : resolve? sources setting with
  | none => simp [Setting.value, hgiven]
  | some given =>
    cases given with
    | text value =>
      simp only [Option.mem_some_iff, exists_eq_left', Refuses, ← exists_check_eq_ok_iff,
        Setting.value, hgiven]
      cases setting.check value <;> simp
    | nothing =>
      simp only [Option.mem_some_iff, exists_eq_left', Refuses, Setting.value, hgiven]
      split <;> simp_all
    | other => simp [Setting.value, hgiven, Refuses]

/-- A refusal names the setting and what is given for it. -/
lemma value_eq_error {refusal : Refusal} (h : setting.value sources = .error refusal) :
    refusal.setting = setting ∧ resolve? sources setting = some refusal.given := by
  unfold Setting.value at h
  split at h
  · cases h
  · next value hgiven =>
    split at h
    · cases h
    · cases h
      exact ⟨rfl, hgiven⟩
  · next hgiven =>
    split at h
    · cases h
    · cases h
      exact ⟨rfl, hgiven⟩
  · next hgiven =>
    cases h
    exact ⟨rfl, hgiven⟩

end Setting

/-! ## Settings as a whole -/

namespace Settings

/-- The conditions on settings. -/
structure Valid (settings : Settings) : Prop where
  gradientStart : Text.isIdentifier settings.gradientStart.toList = true
  backwardStart : Text.isIdentifier settings.backwardStart.toList = true
  cotangentName : Text.isIdentifier settings.cotangentName.toList = true
  inplaceSuffix : settings.inplaceSuffix ≠ "" ∧
    Text.isIdentifier ('f' :: settings.inplaceSuffix.toList) = true
  indent : settings.indent ≠ "" ∧ ∀ c ∈ settings.indent.toList, Text.isBlank c = true
  densifyTemplate : "\x7bgrad\x7d".toList <:+: settings.densifyTemplate.toList
  noGradientTemplate : "\x7bgrad\x7d".toList <:+: settings.noGradientTemplate.toList ∧
    "\x7bprimal\x7d".toList <:+: settings.noGradientTemplate.toList
  logLevel : settings.logLevel ∈ levels.map Prod.fst ∧
    Text.upperCase settings.logLevel = settings.logLevel

/-- Whether some refusals are those of some sources: one for each setting that is refused what the
sources give for it, in the order of declaration. -/
structure RefusedIn (sources : List Source) (refusals : List Refusal) : Prop where
  nonempty : refusals ≠ []
  ordered : (refusals.map Refusal.setting).Sublist Setting.all
  once : (refusals.map Refusal.setting).Nodup
  mem_iff : ∀ setting, setting ∈ refusals.map Refusal.setting ↔
    ∃ given ∈ resolve? sources setting, setting.Refuses given
  given : ∀ refusal ∈ refusals, resolve? sources refusal.setting = some refusal.given

variable {settings : Settings} {sources : List Source}

/-- Settings that pass all checks meet the conditions that the checks stand for. -/
lemma Accepted.valid (h : settings.Accepted) : settings.Valid := by
  have allows (setting : Setting) {value : String} (hget : settings.get setting = some value) :
      setting.Allows value := Setting.exists_check_eq_ok_iff.mp ⟨value, h setting value hget⟩
  have hlevel : Text.upperCase settings.logLevel = settings.logLevel := by
    have hcheck := h .logLevel _ rfl
    simp only [Setting.check] at hcheck
    split at hcheck
    · exact Except.ok.inj hcheck
    · cases hcheck
  exact {
    gradientStart := allows .gradientStart rfl
    backwardStart := allows .backwardStart rfl
    cotangentName := allows .cotangentName rfl
    inplaceSuffix := allows .inplaceSuffix rfl
    indent := allows .indent rfl
    densifyTemplate := allows .densifyTemplate rfl
    noGradientTemplate := allows .noGradientTemplate rfl
    logLevel := ⟨hlevel ▸ allows .logLevel rfl, hlevel⟩ }

/-- Sources give settings if they give each of them. -/
lemma ofSources_eq_ok_iff : ofSources sources = .ok settings ↔
    ∀ setting : Setting, setting.value sources = .ok (settings.get setting) := by
  refine ⟨ofSources_eq_ok, fun h => ?_⟩
  have hnone : Setting.all.filterMap (Setting.refusal? sources) = [] :=
    List.filterMap_eq_nil_iff.mpr fun setting _ => by rw [Setting.refusal?, h setting]
  rw [ofSources_eq, hnone, List.isEmpty_nil, if_pos rfl]
  simp only [h]
  rfl

/-- What is found for some items, each of which can be told from what is found, keeps their
order. -/
lemma sublist_map_filterMap {α β : Type} {find? : α → Option β} {source : β → α}
    (h : ∀ item found, find? item = some found → source found = item) (items : List α) :
    ((items.filterMap find?).map source).Sublist items := by
  induction items with
  | nil => exact .slnil
  | cons item rest ih =>
    cases hfound : find? item with
    | none =>
      rw [List.filterMap_cons_none hfound]
      exact ih.cons item
    | some found =>
      rw [List.filterMap_cons_some hfound, List.map_cons, h item found hfound]
      exact ih.cons_cons item

/-- Otherwise they name what they give in vain. -/
lemma ofSources_eq_error {refusals : List Refusal} (h : ofSources sources = .error refusals) :
    RefusedIn sources refusals := by
  rw [ofSources_eq] at h
  split at h
  · cases h
  · next hsome =>
    cases h
    have hmem (refusal : Refusal) :
        refusal ∈ Setting.all.filterMap (Setting.refusal? sources) ↔
          refusal.setting.value sources = .error refusal := by
      rw [List.mem_filterMap]
      constructor
      · rintro ⟨setting, -, hrefusal⟩
        have hvalue := Setting.refusal?_eq_some_iff.mp hrefusal
        rwa [(Setting.value_eq_error hvalue).1]
      · exact fun hvalue => ⟨_, Setting.mem_all _, Setting.refusal?_eq_some_iff.mpr hvalue⟩
    have hordered : ((Setting.all.filterMap (Setting.refusal? sources)).map
        Refusal.setting).Sublist Setting.all := by
      refine sublist_map_filterMap (fun setting refusal hrefusal => ?_) _
      exact (Setting.value_eq_error (Setting.refusal?_eq_some_iff.mp hrefusal)).1
    exact {
      nonempty := by simpa using hsome
      ordered := hordered
      once := hordered.nodup (by decide)
      mem_iff := fun setting => by
        rw [← Setting.exists_value_eq_error_iff, List.mem_map]
        constructor
        · rintro ⟨refusal, hrefusal, rfl⟩
          exact ⟨refusal, (hmem refusal).mp hrefusal⟩
        · rintro ⟨refusal, hvalue⟩
          obtain ⟨rfl, -⟩ := Setting.value_eq_error hvalue
          exact ⟨refusal, (hmem refusal).mpr hvalue, rfl⟩
      given := fun refusal hrefusal => (Setting.value_eq_error ((hmem refusal).mp hrefusal)).2 }

/-! ## Settings that are given again -/

/-- Settings as the fields that give them. -/
def fields (settings : Settings) : List (String × Given) :=
  Setting.all.map fun setting =>
    (setting.name, ((settings.get setting).map Given.text).getD .nothing)

lemma keys_fields (settings : Settings) :
    settings.fields.map Prod.fst = Setting.all.map Setting.name := by
  rw [fields, List.map_map]
  rfl

lemma nodup_keys_fields (settings : Settings) : (settings.fields.map Prod.fst).Nodup := by
  have hnames : (Setting.all.map Setting.name).Nodup := by decide +kernel
  rwa [keys_fields]

lemma lookup_fields (settings : Settings) (setting : Setting) :
    settings.fields.lookup setting.name =
      some (((settings.get setting).map Given.text).getD .nothing) :=
  (Bindings.lookup_eq_some_iff_mem settings.nodup_keys_fields).mpr
    (List.mem_map.mpr ⟨setting, setting.mem_all, rfl⟩)

/-- Whether a reader takes settings from fields that go by their names, each under a name of its
own. -/
def Reader.KeepsFields (reader : Reader) : Prop :=
  ∀ fields : List (String × Given), (fields.map Prod.fst).Nodup →
    (∀ field ∈ fields, field.1 ∈ Setting.all.map Setting.name) →
    ∀ setting : Setting,
      (reader.fields fields).lookup setting.name = fields.lookup setting.name

/-- **Accepted settings are accepted again**, whatever else there is. -/
lemma ofSources_fields {reader : Reader} (hreader : reader.KeepsFields) (h : settings.Accepted)
    (others : List Source) : ofSources (reader.fields settings.fields :: others) = .ok settings := by
  refine ofSources_eq_ok_iff.mpr fun setting => ?_
  have hnames : ∀ field ∈ settings.fields, field.1 ∈ Setting.all.map Setting.name :=
    fun field hfield => settings.keys_fields ▸ List.mem_map_of_mem hfield
  have hgiven : resolve? (reader.fields settings.fields :: others) setting =
      some (((settings.get setting).map Given.text).getD .nothing) := by
    rw [resolve?, List.findSome?_cons, hreader _ settings.nodup_keys_fields hnames, lookup_fields]
  cases hget : settings.get setting with
  | some value =>
    rw [hget] at hgiven
    simp only [Setting.value, hgiven, Option.map_some, Option.getD_some, h setting value hget]
  | none =>
    have hsetting : setting = .returnActivity := by
      cases setting <;> first
        | rfl
        | cases hget
    rw [hget] at hgiven
    simp only [Setting.value, hgiven, Option.map_none, Option.getD_none, if_pos hsetting]

/-! ## Both outcomes -/

/-- **Settings from fields, variables and a file.**  However these are read, either there is one
refusal for each setting that is refused what the sources give for it, in the order of declaration,
or nothing is refused, the settings meet all conditions, and given as fields they are the same
settings again, whatever variables and file there are. -/
theorem validated (reader : Reader) (hreader : reader.KeepsFields) (fields : List (String × Given))
    (environment : List (String × String)) (file : List Char) :
    let sources := [reader.fields fields, reader.environment environment, reader.file environment file]
    (∀ refusals, ofSources sources = .error refusals → RefusedIn sources refusals) ∧
    ∀ settings, ofSources sources = .ok settings →
      settings.Valid ∧
      (∀ setting, ∀ given ∈ resolve? sources setting, ¬setting.Refuses given) ∧
      ∀ environment' file', ofSources [reader.fields settings.fields,
        reader.environment environment', reader.file environment' file'] = .ok settings := by
  intro sources
  refine ⟨fun refusals h => ofSources_eq_error h, fun settings h => ?_⟩
  have haccepted := accepted_of_ofSources h
  refine ⟨haccepted.valid, fun setting given hgiven hrefuses => ?_,
    fun environment' file' => ofSources_fields hreader haccepted _⟩
  obtain ⟨refusal, hrefusal⟩ := Setting.exists_value_eq_error_iff.mpr ⟨given, hgiven, hrefuses⟩
  rw [ofSources_eq_ok h setting] at hrefusal
  cases hrefusal

/-- The reader that goes by exact names, with files that have a name, an equals sign and a value on
each line. -/
def Reader.plain : Reader where
  fields := Reader.exact.fields
  environment := Reader.exact.environment
  file _ text := Reader.exact.environment ((Text.splitLines text).map fun line =>
    (String.ofList (line.takeWhile (· != '=')),
      String.ofList ((line.dropWhile (· != '=')).drop 1)))

/-- The fields hide a variable and an assignment, of which one would be refused. -/
theorem validated_each_outcome :
    let reader := Reader.plain
    reader.KeepsFields ∧
    (∃ sources refusals,
      sources = [reader.fields [("indent", .text ""), ("gradient_prefix", .text "d-")],
        reader.environment [("INPLACE_ADJOINT_LOG_LEVEL", "loud")],
        reader.file [("INPLACE_ADJOINT_LOG_LEVEL", "loud")]
          "INPLACE_ADJOINT_INDENT=x\nINPLACE_ADJOINT_COTANGENT_NAME=1\n".toList] ∧
      ofSources sources = .error refusals ∧
      refusals.map Refusal.setting = [.gradientStart, .cotangentName, .indent, .logLevel] ∧
      RefusedIn sources refusals) ∧
    ∃ sources settings,
      sources = [reader.fields [("indent", .text "\t"), ("return_activity", .nothing)],
        reader.environment [("INPLACE_ADJOINT_INDENT", "x"), ("INPLACE_ADJOINT_LOG_LEVEL", "debug")],
        reader.file [("INPLACE_ADJOINT_INDENT", "x"), ("INPLACE_ADJOINT_LOG_LEVEL", "debug")]
          "INPLACE_ADJOINT_SECONDARY_ENTRY=engine\n".toList] ∧
      ofSources sources = .ok settings ∧ settings.Valid ∧
      settings.indent = "\t" ∧ settings.logLevel = "DEBUG" ∧ settings.secondaryEntry = "engine" ∧
      ofSources [reader.fields settings.fields, reader.environment [("INPLACE_ADJOINT_INDENT", "x")],
        reader.file [("INPLACE_ADJOINT_INDENT", "x")] []] = .ok settings := by
  intro reader
  have hreader : reader.KeepsFields := fun _ _ _ _ => rfl
  refine ⟨hreader, ?_, ?_⟩
  · refine ⟨_, [⟨.gradientStart, .text "d-", .noIdentifier "d-"⟩,
      ⟨.cotangentName, .text "1", .noIdentifier "1"⟩, ⟨.indent, .text "", .noIndent⟩,
      ⟨.logLevel, .text "loud", .unknownLevel "loud"⟩], rfl, by decide +kernel, rfl, ?_⟩
    exact (validated reader hreader _ _ _).1 _ (by decide +kernel)
  · obtain ⟨settings, hsettings, hvalues⟩ : ∃ settings,
        ofSources [reader.fields [("indent", .text "\t"), ("return_activity", .nothing)],
          reader.environment [("INPLACE_ADJOINT_INDENT", "x"), ("INPLACE_ADJOINT_LOG_LEVEL", "debug")],
          reader.file [("INPLACE_ADJOINT_INDENT", "x"), ("INPLACE_ADJOINT_LOG_LEVEL", "debug")]
            "INPLACE_ADJOINT_SECONDARY_ENTRY=engine\n".toList] = .ok settings ∧
        settings.indent = "\t" ∧ settings.logLevel = "DEBUG" ∧ settings.secondaryEntry = "engine" :=
      exists_ok_of_decide (by decide +kernel)
    obtain ⟨hvalid, -, hagain⟩ := (validated reader hreader _ _ _).2 settings hsettings
    exact ⟨_, settings, rfl, hsettings, hvalid, hvalues.1, hvalues.2.1, hvalues.2.2, hagain _ _⟩

end Settings

end AdjointSynthesis

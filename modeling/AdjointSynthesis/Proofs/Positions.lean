import AdjointSynthesis.Proofs.Runs
import AdjointSynthesis.Proofs.Synthesis

/-!
# Positions that count from the end

A position that counts from the end denotes another block once a shape is registered.  What a
generator hands out for such a position does not follow: the definitions that were written when they
were first asked for are kept under the position and handed out from then on.  A position that
counts from the beginning always denotes the same block, so there nothing can be told.

* `Generator.denoted`: the definitions of the block that a position denotes at a moment.
* `Request.lookup_written_step`: the one request that changes what is kept for a position.
* `exists_request_of_lookup_written`: what is kept was handed out to the first request for it.
* `result_artifacts_afterAll_new`: what is handed out for a position is what it denotes, or what it
  denoted then.
-/

namespace AdjointSynthesis

variable {σ : Type}

namespace Generator

variable {generator : Generator} {position : Int} {found : Artifacts}

variable [Template.Runtime]

/-- The definitions of the block that a position denotes. -/
def denoted (generator : Generator) (position : Int) : Except Failure Artifacts := do
  generator.written? (← generator.registry.get position)

/-! ## Kept or not -/

lemma result_artifacts_of_lookup (h : generator.written.lookup position = some found) :
    (generator.artifacts position).2.result = .ok found := by
  simp only [artifacts, h]
  rfl

/-- Definitions that are not kept are written for the block that the position denotes. -/
lemma result_artifacts_of_lookup_eq_none (h : generator.written.lookup position = none) :
    (generator.artifacts position).2.result = generator.denoted position := by
  simp only [artifacts, h, denoted]
  cases generator.registry.get position with
  | error failure => rfl
  | ok block =>
    dsimp only
    cases hblock : (synthesize block generator.constants generator.settings).result with
    | error failure => exact hblock.trans (hblock ▸ rfl)
    | ok found => exact hblock.trans (hblock ▸ rfl)

/-- From the beginning, what is kept cannot be told from what is denoted. -/
lemma Faithful.result_artifacts_eq_denoted (h : generator.Faithful) (hposition : 0 ≤ position) :
    (generator.artifacts position).2.result = generator.denoted position := by
  obtain ⟨n, rfl⟩ := Int.eq_ofNat_of_zero_le hposition
  rw [h.result_artifacts, denoted, get_ofNat]
  cases generator.registry.blocks[n]? <;> rfl

end Generator

open Generator

section
variable [Template.Runtime] {position : Int} {start : Generator × σ} {requests : List (Request σ)}
  {found : Artifacts}

/-- **Only a request for a position that counts from the end changes what is kept for it.**  It
keeps what it hands out. -/
lemma Request.lookup_written_step (request : Request σ) (hposition : position < 0)
    (generator : Generator) (state : σ) :
    (request.step generator state).1.1.written.lookup position =
        generator.written.lookup position ∨
      request = .artifacts position ∧
        (request.step generator state).1.1.written.lookup position =
          (generator.artifacts position).2.result.toOption := by
  cases request with
  | addText source scope name =>
    exact .inl (congrArg (List.lookup position) (generator.written_registering _))
  | extract wrapper scope fallback =>
    exact .inl (congrArg (List.lookup position) (generator.written_registering _))
  | artifacts asked =>
    by_cases hasked : position = asked
    · subst hasked
      exact .inr ⟨rfl, generator.lookup_written_artifacts_self position⟩
    · exact .inl (generator.lookup_written_artifacts_of_ne hasked)
  | allArtifacts => exact .inl (generator.lookup_written_artifactsAt _ hposition)
  | report => exact .inl (generator.lookup_written_report hposition)

/-- Definitions stay kept. -/
lemma lookup_written_afterAll (hposition : position < 0)
    (h : start.1.written.lookup position = some found) (requests : List (Request σ)) :
    (afterAll requests start).1.written.lookup position = some found := by
  induction requests generalizing start with
  | nil => exact h
  | cons request rest ih =>
    refine ih ?_
    rcases request.lookup_written_step hposition start.1 start.2 with hsame | ⟨-, hasked⟩
    · exact hsame.trans h
    · rw [hasked, result_artifacts_of_lookup h]
      rfl

/-- **What is kept was handed out to a request for it**, which was the first that was answered. -/
lemma exists_request_of_lookup_written (hposition : position < 0)
    (hstart : start.1.written.lookup position = none)
    (h : (afterAll requests start).1.written.lookup position = some found) :
    ∃ before after, requests = before ++ .artifacts position :: after ∧
      (afterAll before start).1.denoted position = .ok found := by
  induction requests generalizing start with
  | nil =>
    rw [afterAll_nil, hstart] at h
    cases h
  | cons request rest ih =>
    rw [afterAll_cons] at h
    cases hnext : (request.step start.1 start.2).1.1.written.lookup position with
    | none =>
      obtain ⟨before, after, rfl, hdenoted⟩ := ih hnext h
      exact ⟨request :: before, after, rfl, hdenoted⟩
    | some kept =>
      -- this request is the one
      have hkept := lookup_written_afterAll hposition hnext rest
      obtain rfl : kept = found := Option.some.inj (hkept.symm.trans h)
      rcases request.lookup_written_step hposition start.1 start.2 with hsame | ⟨rfl, hasked⟩
      · rw [hsame, hstart] at hnext
        cases hnext
      · rw [hasked, result_artifacts_of_lookup_eq_none hstart] at hnext
        refine ⟨[], rest, rfl, ?_⟩
        rw [afterAll_nil]
        cases hdenoted : start.1.denoted position with
        | error failure =>
          rw [hdenoted] at hnext
          cases hnext
        | ok other =>
          rw [hdenoted] at hnext
          exact congrArg Except.ok (Option.some.inj hnext)

end

/-- **What is handed out for a position is what it denotes, or what it denoted when it was first
asked for.**  After any requests to a new generator, failing ones included, the definitions for a
position are those of the block that it denotes now.  Otherwise the position counts from the end,
and they are those of the block that it denoted when an earlier request for it was answered. -/
theorem result_artifacts_afterAll_new [Template.Runtime] (constants : List String)
    (settings : Settings) (state : σ) (requests : List (Request σ)) (position : Int) :
    let fresh := (Generator.new constants settings, state)
    let now := afterAll requests fresh
    (now.1.artifacts position).2.result = now.1.denoted position ∨
      position < 0 ∧ ∃ before after found, requests = before ++ .artifacts position :: after ∧
        (afterAll before fresh).1.denoted position = .ok found ∧
        (now.1.artifacts position).2.result = .ok found := by
  intro fresh now
  rcases Int.lt_or_le position 0 with hposition | hposition
  · cases hkept : now.1.written.lookup position with
    | none => exact .inl (result_artifacts_of_lookup_eq_none hkept)
    | some found =>
      have hfresh : fresh.1.written.lookup position = none := rfl
      obtain ⟨before, after, hrequests, hdenoted⟩ :=
        exists_request_of_lookup_written hposition hfresh hkept
      exact .inr ⟨hposition, before, after, found, hrequests, hdenoted,
        result_artifacts_of_lookup hkept⟩
  · have hnow : now.1.Faithful := afterAll_faithful requests (faithful_new constants settings)
    exact .inl (hnow.result_artifacts_eq_denoted hposition)

attribute [local instance] Template.Runtime.bare

/-- The last shape is asked for before and after another one is registered: the second answer is
the first one. -/
theorem artifacts_of_former_last :
    let requests : List (Request Unit) :=
      [.addText "a[0] = 1\n".toList (.ofNames ["a"] .object) (some "f"), .artifacts (-1),
        .addText "b[0] = 1\n".toList (.ofNames ["b"] .object) (some "g")]
    let now := afterAll requests (Generator.new [] .default, ())
    (∃ block, now.1.registry.get (-1) = .ok block ∧ block.name = "g") ∧
      ∃ found, (now.1.artifacts (-1)).2.result = .ok found ∧ found.name = "f" :=
  ⟨exists_ok_of_decide (by decide +kernel), exists_ok_of_decide (by decide +kernel)⟩

end AdjointSynthesis

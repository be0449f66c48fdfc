import AdjointSynthesis.Proofs.Runs

/-!
# Kept definitions cannot be seen

A generator keeps the definitions that it has written.  This file shows that whoever asks for
definitions cannot tell: after any run the answers are what writing all definitions anew would give,
the requests for definitions made on the way leave no trace in them, and definitions once handed out
are handed out again ever after.
-/

namespace AdjointSynthesis

variable {σ : Type}

/-! ## The first failure of a list -/

section FirstFailure

variable {α β ε : Type} (f : α → Except ε β)

/-- Collecting succeeds exactly with the list of all results. -/
lemma mapM_eq_ok_iff (items : List α) (results : List β) :
    items.mapM f = .ok results ↔ items.map f = results.map .ok := by
  induction items generalizing results with
  | nil =>
    cases results with
    | nil => exact ⟨fun _ => rfl, fun _ => rfl⟩
    | cons result rest => exact ⟨fun h => (nomatch h), fun h => (nomatch h)⟩
  | cons item rest ih =>
    rw [List.mapM_cons, List.map_cons]
    cases hitem : f item with
    | error problem =>
      refine ⟨fun h => (nomatch h), fun h => ?_⟩
      cases results <;> simp at h
    | ok value =>
      cases hrest : rest.mapM f with
      | error problem =>
        refine ⟨fun h => (nomatch h), fun h => ?_⟩
        cases results with
        | nil => simp at h
        | cons result more =>
          rw [List.map_cons, List.cons.injEq] at h
          rw [(ih more).mpr h.2] at hrest
          nomatch hrest
      | ok values =>
        have hvalues := (ih values).mp hrest
        constructor
        · rintro ⟨⟩
          rw [List.map_cons, hvalues]
        · intro h
          cases results with
          | nil => simp at h
          | cons result more =>
            rw [List.map_cons, List.cons.injEq] at h
            obtain ⟨⟨⟩, h⟩ := h
            rw [(ih more).mpr h] at hrest
            cases hrest
            rfl

/-- Collecting fails exactly with the first failure. -/
lemma mapM_eq_error_iff (items : List α) (problem : ε) :
    items.mapM f = .error problem ↔
      ∃ i : Nat, items[i]?.map f = some (.error problem) ∧
        ∀ j < i, ∃ value, items[j]?.map f = some (.ok value) := by
  induction items with
  | nil => exact ⟨fun h => (nomatch h), fun ⟨i, h, _⟩ => by simp at h⟩
  | cons item rest ih =>
    rw [List.mapM_cons]
    cases hitem : f item with
    | error other =>
      constructor
      · rintro ⟨⟩
        exact ⟨0, by simp [hitem], fun j hj => absurd hj (Nat.not_lt_zero j)⟩
      · rintro ⟨i, hi, hbefore⟩
        cases i with
        | zero =>
          obtain rfl : other = problem := by simpa [hitem] using hi
          rfl
        | succ i =>
          obtain ⟨value, hvalue⟩ := hbefore 0 (Nat.succ_pos i)
          simp [hitem] at hvalue
    | ok value =>
      have hstep : (do let values ← rest.mapM f; pure (value :: values)) = .error problem ↔
          rest.mapM f = .error problem := by
        cases rest.mapM f with
        | error other => exact Iff.rfl
        | ok values => exact ⟨fun h => (nomatch h), fun h => (nomatch h)⟩
      refine hstep.trans (ih.trans ⟨?_, ?_⟩)
      · rintro ⟨i, hi, hbefore⟩
        refine ⟨i + 1, by simpa using hi, fun j hj => ?_⟩
        cases j with
        | zero => exact ⟨value, by simp [hitem]⟩
        | succ j => simpa using hbefore j (by omega)
      · rintro ⟨i, hi, hbefore⟩
        cases i with
        | zero => simp [hitem] at hi
        | succ i => exact ⟨i, by simpa using hi, fun j hj => by simpa using hbefore (j + 1) (by omega)⟩

end FirstFailure

/-! ## What definitions depend on -/

/-- Two moments of a run that agree but for the definitions that are kept. -/
structure Alike (s t : Generator × σ) : Prop where
  constants : s.1.constants = t.1.constants
  settings : s.1.settings = t.1.settings
  registry : s.1.registry = t.1.registry
  state : s.2 = t.2

lemma Alike.registering {s t : Generator × σ} (h : Alike s t) (step : Logged Block) (state : σ) :
    Alike ((s.1.registering step).1, state) ((t.1.registering step).1, state) := by
  unfold Generator.registering
  split
  · exact ⟨h.constants, h.settings, h.registry, rfl⟩
  · refine ⟨h.constants, h.settings, ?_, rfl⟩
    simp only [Generator.register, h.registry]

variable [Template.Runtime]

/-- What a registration leaves behind does not depend on what is kept. -/
lemma Alike.step {s t : Generator × σ} (h : Alike s t) {request : Request σ}
    (hr : request.registers = true) :
    Alike (request.step s.1 s.2).1 (request.step t.1 t.2).1 := by
  obtain ⟨generator, state⟩ := s
  obtain ⟨other, state'⟩ := t
  obtain rfl : state = state' := h.state
  cases request with
  | addText source scope name => exact h.registering _ _
  | extract wrapper scope fallback =>
    exact h.registering (wrapper.extract scope fallback state).1
      (wrapper.extract scope fallback state).2
  | artifacts position => nomatch hr
  | allArtifacts => nomatch hr
  | report => nomatch hr

/-- A request for definitions changes nothing but what is kept. -/
lemma Alike.step_of_not_registers {s t : Generator × σ} (h : Alike s t) {request : Request σ}
    (hr : request.registers = false) : Alike (request.step s.1 s.2).1 t := by
  have later {generator : Generator} (h' : generator.registry = s.1.registry ∧
      generator.constants = s.1.constants ∧ generator.settings = s.1.settings) :
      Alike (generator, s.2) t :=
    ⟨h'.2.1.trans h.constants, h'.2.2.trans h.settings, h'.1.trans h.registry, h.state⟩
  cases request with
  | addText source scope name => nomatch hr
  | extract wrapper scope fallback => nomatch hr
  | artifacts position => exact later (Generator.registry_artifacts s.1 position)
  | allArtifacts => exact later (Generator.registry_artifactsAt s.1 _)
  | report => exact later (Generator.registry_report s.1)

/-- A run and its registrations alone agree but for what is kept. -/
lemma alike_afterAll_filter (requests : List (Request σ)) {s t : Generator × σ} (h : Alike s t) :
    Alike (afterAll requests s) (afterAll (requests.filter Request.registers) t) := by
  induction requests generalizing s t with
  | nil => exact h
  | cons request rest ih =>
    by_cases hr : request.registers = true
    · rw [List.filter_cons_of_pos hr, afterAll_cons, afterAll_cons]
      exact ih (h.step hr)
    · rw [List.filter_cons_of_neg hr, afterAll_cons]
      exact ih (h.step_of_not_registers (by simpa using hr))

lemma Alike.result_allArtifacts {s t : Generator × σ} (h : Alike s t) (hs : s.1.Faithful)
    (ht : t.1.Faithful) : s.1.allArtifacts.2.result = t.1.allArtifacts.2.result := by
  have hwritten : s.1.written? = t.1.written? := by
    funext block
    rw [Generator.written?, Generator.written?, h.constants, h.settings]
  rw [hs.result_allArtifacts, ht.result_allArtifacts, h.registry, hwritten]

/-! ## Definitions handed out -/

/-- Whether the answer to a request holds some definitions for a position that counts from the
beginning. -/
def Request.HandsOut (request : Request σ) (answer : Answer) (n : Nat) (found : Artifacts) : Prop :=
  match request, answer with
  | .artifacts position, .one (.ok one) => position = n ∧ one = found
  | .allArtifacts, .all (.ok all) => all[n]? = some found
  | _, _ => False

/-- What is handed out for a position are the definitions of the block there. -/
lemma Request.HandsOut.block {request : Request σ} {generator : Generator} {state : σ} {n : Nat}
    {found : Artifacts} (h : generator.Faithful)
    (hout : request.HandsOut (request.step generator state).2 n found) :
    ∃ block, generator.registry.blocks[n]? = some block ∧
      generator.written? block = .ok found := by
  cases request with
  | addText source scope name => exact hout.elim
  | extract wrapper scope fallback => exact hout.elim
  | report => exact hout.elim
  | artifacts position =>
    change Request.HandsOut (.artifacts position)
      (.one (generator.artifacts position).2.result) n found at hout
    cases hone : (generator.artifacts position).2.result with
    | error failure => rw [hone] at hout; exact hout.elim
    | ok one =>
      rw [hone] at hout
      obtain ⟨rfl, rfl⟩ := hout
      rw [h.result_artifacts] at hone
      cases hat : generator.registry.blocks[n]? with
      | none => rw [hat] at hone; nomatch hone
      | some block => rw [hat] at hone; exact ⟨block, rfl, hone⟩
  | allArtifacts =>
    change Request.HandsOut .allArtifacts (.all generator.allArtifacts.2.result) n found at hout
    cases hall : generator.allArtifacts.2.result with
    | error failure => rw [hall] at hout; exact hout.elim
    | ok all =>
      rw [hall] at hout
      rw [h.result_allArtifacts, mapM_eq_ok_iff] at hall
      have hat := congrArg (·[n]?) hall
      simp only [List.getElem?_map] at hat
      change all[n]? = some found at hout
      rw [hout] at hat
      simpa using hat

/-- What is handed out once is handed out again after any further requests. -/
lemma Request.HandsOut.again {request : Request σ} {generator : Generator} {state : σ} {n : Nat}
    {found : Artifacts} (h : generator.Faithful)
    (hout : request.HandsOut (request.step generator state).2 n found)
    (more : List (Request σ)) :
    ((afterAll more (request.step generator state).1).1.artifacts n).2.result = .ok found := by
  obtain ⟨block, hblock, hwritten⟩ := hout.block h
  have hgrows := (request.growsTo_step generator state).trans (afterAll_growsTo more _)
  obtain ⟨behind, hbehind⟩ := hgrows.blocks
  have hn : n < generator.registry.blocks.length := (List.getElem?_eq_some_iff.mp hblock).1
  rw [(afterAll_faithful more (request.faithful_step h state)).result_artifacts, ← hbehind,
    List.getElem?_append_left hn, hblock]
  change Generator.written? _ block = .ok found
  rw [Generator.written?, hgrows.constants, hgrows.settings]
  exact hwritten

/-- **Keeping definitions is transparent over whole runs.**  After any requests to a new generator,
failing ones included, all definitions are those that each registered block has by itself, in the
order of registration, or the failure of the first block that has none.  They do not depend on the
requests for definitions made on the way, and what was handed out once for a position that counts
from the beginning is handed out for it ever after. -/
theorem allArtifacts_afterAll_new (constants : List String) (settings : Settings) (state : σ)
    (requests : List (Request σ)) :
    let fresh := (Generator.new constants settings, state)
    let now := afterAll requests fresh
    let write (block : Block) := (synthesize block constants settings).result
    (∀ found, now.1.allArtifacts.2.result = .ok found ↔
      now.1.registry.blocks.map write = found.map .ok) ∧
    (∀ failure, now.1.allArtifacts.2.result = .error failure ↔
      ∃ i : Nat, now.1.registry.blocks[i]?.map write = some (.error failure) ∧
        ∀ j < i, ∃ found, now.1.registry.blocks[j]?.map write = some (.ok found)) ∧
    (∀ others : List (Request σ),
      others.filter Request.registers = requests.filter Request.registers →
      (afterAll others fresh).1.allArtifacts.2.result = now.1.allArtifacts.2.result) ∧
    (∀ (request : Request σ) (n : Nat) (found : Artifacts),
      request.HandsOut (request.step now.1 now.2).2 n found →
      ∀ more, ((afterAll more (request.step now.1 now.2).1).1.artifacts n).2.result =
        .ok found) := by
  intro fresh now write
  have hfresh : fresh.1.Faithful := Generator.faithful_new constants settings
  have hnow : now.1.Faithful := afterAll_faithful requests hfresh
  have hgrows := afterAll_growsTo requests fresh
  have hwrite : now.1.written? = write := by
    funext block
    rw [Generator.written?, hgrows.constants, hgrows.settings]
    rfl
  have hall := hnow.result_allArtifacts
  rw [hwrite] at hall
  refine ⟨fun found => ?_, fun failure => ?_, fun others hothers => ?_,
    fun request n found hout more => hout.again hnow more⟩
  · rw [hall, mapM_eq_ok_iff]
  · rw [hall, mapM_eq_error_iff]
  · have hself : Alike fresh fresh := ⟨rfl, rfl, rfl, rfl⟩
    have hregistered : (afterAll (requests.filter Request.registers) fresh).1.Faithful :=
      afterAll_faithful _ hfresh
    rw [(alike_afterAll_filter requests hself).result_allArtifacts hnow hregistered,
      (alike_afterAll_filter others hself).result_allArtifacts (afterAll_faithful others hfresh)
        (hothers ▸ hregistered), hothers]

end AdjointSynthesis

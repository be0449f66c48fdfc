import AdjointSynthesis.Proofs.Synthesis

/-!
# The usage of a text

What `Usage.ofText` does, said once: which texts have a usage, and what each part of it is.

* `mem_firstOccurrences`, `nodup_firstOccurrences`: names without their repetitions.
* `Usage.ofText_eq_ok_iff`: when a text has a usage, and which one.
* `Usage.mem_mutated_iff`: the names that are written to are the roots of the targets that stand
  first on their lines.
-/

namespace AdjointSynthesis

open Code

/-! ## Names without repetitions -/

/-- The names that are found behind others, without repetitions. -/
lemma foldl_firstOccurrences (names found : List String) (h : found.Nodup) :
    let all := names.foldl
      (fun found name => if found.contains name then found else found ++ [name]) found
    all.Nodup ∧ ∀ name, name ∈ all ↔ name ∈ found ∨ name ∈ names := by
  -- the names found so far change on the way
  induction names generalizing found with
  | nil => exact ⟨h, fun name => by simp⟩
  | cons first rest ih =>
    rw [List.foldl_cons]
    by_cases hfirst : first ∈ found
    · rw [if_pos (List.contains_iff_mem.mpr hfirst)]
      obtain ⟨hnodup, hmem⟩ := ih found h
      refine ⟨hnodup, fun name => (hmem name).trans ?_⟩
      rw [List.mem_cons]
      constructor
      · exact .imp_right .inr
      · rintro (hfound | rfl | hrest)
        · exact .inl hfound
        · exact .inl hfirst
        · exact .inr hrest
    · rw [if_neg (mt List.contains_iff_mem.mp hfirst)]
      have hconcat : (found ++ [first]).Nodup := by
        rw [List.nodup_append]
        refine ⟨h, by simp, fun a ha b hb heq => ?_⟩
        exact hfirst (List.mem_singleton.mp hb ▸ heq ▸ ha)
      obtain ⟨hnodup, hmem⟩ := ih _ hconcat
      refine ⟨hnodup, fun name => (hmem name).trans ?_⟩
      rw [List.mem_append, List.mem_singleton, List.mem_cons, or_assoc]

lemma mem_firstOccurrences {name : String} {names : List String} :
    name ∈ firstOccurrences names ↔ name ∈ names :=
  ((foldl_firstOccurrences names [] List.nodup_nil).2 name).trans
    (or_iff_right List.not_mem_nil)

lemma nodup_firstOccurrences (names : List String) : (firstOccurrences names).Nodup :=
  (foldl_firstOccurrences names [] List.nodup_nil).1

/-! ## Writes -/

lemma writeTo?_eq_ok_iff {lines : List (List Char)} {target : Expr} {write : Write} :
    writeTo? lines target = .ok (some write) ↔
      target.subscriptRoot? = some write.root ∧ target.span.start = write.place ∧
        startsLine? lines target.span.start = some true := by
  unfold writeTo?
  obtain ⟨place, root⟩ := write
  split
  · next hroot => simp [hroot]
  · next root' hroot =>
    split
    · next hline => simp [hline]
    · next hline => simp [hroot, hline, and_comm, eq_comm]
    · next hline => simp [hline]

/-- The writes to some targets are those to each of them. -/
lemma mem_of_writesTo {lines : List (List Char)} {targets : List Expr} {writes : List Write}
    (h : writesTo lines targets = .ok writes) (write : Write) :
    write ∈ writes ↔ ∃ target ∈ targets, writeTo? lines target = .ok (some write) := by
  induction targets generalizing writes with
  | nil =>
    cases h
    simp
  | cons target rest ih =>
    rw [writesTo] at h
    cases hwrite : writeTo? lines target with
    | error failure =>
      rw [hwrite] at h
      cases h
    | ok found =>
      cases hrest : writesTo lines rest with
      | error failure =>
        rw [hwrite, hrest] at h
        cases h
      | ok others =>
        rw [hwrite, hrest] at h
        cases h
        simp [ih hrest, hwrite, eq_comm]

/-! ## Texts with a usage -/

lemma readProgram_eq_ok_iff {part : Part} {text : List Char} {statements : List Stmt} :
    readProgram part text = .ok statements ↔
      '\x00' ∉ text ∧ Code.read text = .ok statements := by
  unfold readProgram
  split
  · next hnull => simp [List.contains_iff_mem.mp hnull]
  · next hnull =>
    have hnull : '\x00' ∉ text := fun hmem => hnull (List.contains_iff_mem.mpr hmem)
    cases Code.read text <;> simp [Except.mapError, hnull]

namespace Usage

variable {source : List Char} {usage : Usage}

/-- **When a text has a usage, and which one.** -/
theorem ofText_eq_ok_iff :
    Usage.ofText source = .ok usage ↔
      usage.text = Text.dedent source ∧ '\x00' ∉ usage.text ∧
      Code.read usage.text = .ok usage.statements ∧
      usage.referenced =
        firstOccurrences ((inOrder (namesInBody 1 usage.statements)).map Occurrence.name) ∧
      ∃ writes, writesTo (Text.splitOn '\n' usage.text)
          ((allIn usage.statements).flatMap Stmt.targets) = .ok writes ∧
        usage.mutated = firstOccurrences ((sorted Write.before writes).map Write.root) := by
  obtain ⟨text, statements, referenced, mutated⟩ := usage
  unfold Usage.ofText
  dsimp only
  constructor
  · intro h
    obtain ⟨found, hread, h⟩ := bind_eq_ok_iff.mp h
    obtain ⟨writes, hwrites, h⟩ := bind_eq_ok_iff.mp h
    cases h
    obtain ⟨hnull, hread⟩ := readProgram_eq_ok_iff.mp hread
    exact ⟨rfl, hnull, hread, rfl, writes, hwrites, rfl⟩
  · rintro ⟨rfl, hnull, hread, rfl, writes, hwrites, rfl⟩
    refine bind_eq_ok_iff.mpr ⟨statements, readProgram_eq_ok_iff.mpr ⟨hnull, hread⟩, ?_⟩
    exact bind_eq_ok_iff.mpr ⟨writes, hwrites, rfl⟩

/-- **The names that are written to** are the roots of the targets that stand first on their lines,
as far as the count of leading blanks tells. -/
theorem mem_mutated_iff (h : Usage.ofText source = .ok usage) {name : String} :
    name ∈ usage.mutated ↔ ∃ stmt ∈ allIn usage.statements, ∃ target ∈ stmt.targets,
      target.subscriptRoot? = some name ∧
        startsLine? (Text.splitOn '\n' usage.text) target.span.start = some true := by
  obtain ⟨-, -, -, -, writes, hwrites, hmutated⟩ := ofText_eq_ok_iff.mp h
  rw [hmutated, mem_firstOccurrences, List.mem_map]
  constructor
  · rintro ⟨write, hmem, rfl⟩
    obtain ⟨target, htarget, hwrite⟩ := (mem_of_writesTo hwrites write).mp ((mem_sorted ..).mp hmem)
    obtain ⟨stmt, hstmt, htarget⟩ := List.mem_flatMap.mp htarget
    obtain ⟨hroot, -, hline⟩ := writeTo?_eq_ok_iff.mp hwrite
    exact ⟨stmt, hstmt, target, htarget, hroot, hline⟩
  · rintro ⟨stmt, hstmt, target, htarget, hroot, hline⟩
    refine ⟨⟨target.span.start, name⟩, (mem_sorted ..).mpr ?_, rfl⟩
    refine (mem_of_writesTo hwrites _).mpr ⟨target, ?_, writeTo?_eq_ok_iff.mpr ⟨hroot, rfl, hline⟩⟩
    exact List.mem_flatMap.mpr ⟨stmt, hstmt, htarget⟩

end Usage

end AdjointSynthesis

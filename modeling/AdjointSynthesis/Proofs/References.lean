import AdjointSynthesis.Proofs.Partition
import AdjointSynthesis.Proofs.Reading.Targets
import AdjointSynthesis.Proofs.Usage

/-!
# Writes are references

What a text writes to and what it refers to are found on two walks through its tree.  One goes to
the targets of the assignments and from a chain of subscripts down to its root, the other goes to
every name.  Whatever the first walk finds the second one passes as well, so a variable that is
written to is an input, and it is in the split of the variables.

* `Code.Mentions`: a name is among some occurrences.
* `Code.mentions_of_mem_targets`: the root of a target is mentioned in its statement.
* `Code.mentions_of_mem_allIn`: what a statement mentions, the statements around it do.
* `Usage.splitRoles_eq_noMutation_iff`: when a split is refused for want of a write.
* `Usage.mutated_of_ofText`: a split takes every visible variable that its text writes to.
-/

namespace AdjointSynthesis

namespace Code

/-- A name is among some occurrences. -/
def Mentions (name : String) (occurrences : List Occurrence) : Prop :=
  name ∈ occurrences.map Occurrence.name

variable {name : String}

@[simp]
lemma mentions_append {occurrences more : List Occurrence} :
    Mentions name (occurrences ++ more) ↔ Mentions name occurrences ∨ Mentions name more := by
  rw [Mentions, List.map_append, List.mem_append]
  rfl

lemma Mentions.inOrder {occurrences : List Occurrence} (h : Mentions name occurrences) :
    Mentions name (inOrder occurrences) := by
  obtain ⟨occurrence, hmem, rfl⟩ := List.mem_map.mp h
  exact List.mem_map_of_mem ((mem_sorted ..).mpr hmem)

/-! ## Roots of targets -/

/-- The root of a chain of subscripts is mentioned in it. -/
lemma mentions_of_base? {e : Expr} (h : e.base? = some name) (depth : Nat) :
    Mentions name (e.names depth) := by
  -- the rest of the chain stands one deeper
  induction e using Expr.base?.induct generalizing depth with
  | case1 span value index ih =>
    rw [Expr.base?] at h
    rw [Expr.names, mentions_append]
    exact .inl (ih h (depth + 1))
  | case2 span id =>
    rw [Expr.base?] at h
    rw [Expr.names, ← Option.some.inj h]
    exact List.mem_singleton_self id
  | case3 e hsubscript hname =>
    rw [Expr.base?.eq_3 e hsubscript hname] at h
    cases h

lemma base?_of_subscriptRoot? {e : Expr} (h : e.subscriptRoot? = some name) :
    e.base? = some name := by
  obtain ⟨span, form⟩ := e
  cases form <;> first
    | exact h
    | cases h

/-- What one of some expressions mentions, all of them do. -/
lemma mentions_of_mem {e : Expr} {items : List Expr} {depth : Nat} (hmem : e ∈ items)
    (h : Mentions name (e.names depth)) : Mentions name (namesIn depth items) := by
  induction items with
  | nil => cases hmem
  | cons item rest ih =>
    rw [namesIn, mentions_append]
    rcases List.mem_cons.mp hmem with rfl | hmem
    · exact .inl h
    · exact .inr (ih hmem)

/-- A target is mentioned with the one that it was taken from. -/
lemma mentions_of_mem_flatTargets {e target : Expr} (hmem : e ∈ target.flatTargets)
    (h : ∀ depth, Mentions name (e.names depth)) (depth : Nat) :
    Mentions name (target.names depth) := by
  unfold Expr.flatTargets at hmem
  split at hmem
  · rw [Expr.names]
    exact mentions_of_mem hmem (h (depth + 1))
  · rw [Expr.names]
    exact mentions_of_mem hmem (h (depth + 1))
  · rw [← List.mem_singleton.mp hmem]
    exact h depth

/-- **The root of a target is mentioned in its statement.** -/
lemma mentions_of_mem_targets {stmt : Stmt} {target : Expr} (hmem : target ∈ stmt.targets)
    (hroot : target.subscriptRoot? = some name) (depth : Nat) :
    Mentions name (stmt.names depth) := by
  have h := mentions_of_base? (base?_of_subscriptRoot? hroot)
  unfold Stmt.targets at hmem
  split at hmem
  · obtain ⟨whole, hwhole, hmem⟩ := List.mem_flatMap.mp hmem
    rw [Stmt.names, mentions_append]
    exact .inl (mentions_of_mem hwhole (mentions_of_mem_flatTargets hmem h (depth + 1)))
  · rw [List.mem_singleton.mp hmem] at h
    rw [Stmt.names, mentions_append]
    exact .inl (h (depth + 1))
  · rw [List.mem_singleton.mp hmem] at h
    rw [Stmt.names, mentions_append, mentions_append]
    exact .inl (.inl (h (depth + 1)))
  · cases hmem

/-! ## Statements around -/

variable {inner : Stmt}

mutual

/-- What a statement mentions, one around it does. -/
lemma mentions_of_mem_all (h : ∀ depth, Mentions name (inner.names depth)) (stmt : Stmt)
    (hmem : inner ∈ stmt.all) (depth : Nat) : Mentions name (stmt.names depth) := by
  obtain ⟨span, form⟩ := stmt
  rw [all_eq] at hmem
  rcases List.mem_cons.mp hmem with rfl | hmem
  · exact h depth
  · exact mentions_of_mem_inside h span form hmem depth

lemma mentions_of_mem_inside (h : ∀ depth, Mentions name (inner.names depth)) (span : Span)
    (form : StmtForm) (hmem : inner ∈ form.inside) (depth : Nat) :
    Mentions name ((Stmt.mk span form).names depth) := by
  cases form with
  | function isAsync name parameters body decorators returns =>
    simp only [Stmt.names, mentions_append]
    exact .inl (.inl (.inr (mentions_of_mem_allIn h body hmem (depth + 1))))
  | classDefinition name bases keywords body decorators =>
    simp only [Stmt.names, mentions_append]
    exact .inl (.inr (mentions_of_mem_allIn h body hmem (depth + 1)))
  | forLoop isAsync target source body otherwise =>
    simp only [Stmt.names, mentions_append]
    rcases List.mem_append.mp hmem with hmem | hmem
    · exact .inl (.inr (mentions_of_mem_allIn h body hmem (depth + 1)))
    · exact .inr (mentions_of_mem_allIn h otherwise hmem (depth + 1))
  | whileLoop condition body otherwise =>
    simp only [Stmt.names, mentions_append]
    rcases List.mem_append.mp hmem with hmem | hmem
    · exact .inl (.inr (mentions_of_mem_allIn h body hmem (depth + 1)))
    · exact .inr (mentions_of_mem_allIn h otherwise hmem (depth + 1))
  | branch condition body otherwise =>
    simp only [Stmt.names, mentions_append]
    rcases List.mem_append.mp hmem with hmem | hmem
    · exact .inl (.inr (mentions_of_mem_allIn h body hmem (depth + 1)))
    · exact .inr (mentions_of_mem_allIn h otherwise hmem (depth + 1))
  | withBlock isAsync managers body =>
    simp only [Stmt.names, mentions_append]
    exact .inr (mentions_of_mem_allIn h body hmem (depth + 1))
  | matching subject cases =>
    simp only [Stmt.names, mentions_append]
    exact .inr (mentions_of_mem_allInCases h cases hmem (depth + 2))
  | trying isGroup body handlers otherwise finally_ =>
    simp only [Stmt.names, mentions_append]
    rcases List.mem_append.mp hmem with hmem | hmem
    · rcases List.mem_append.mp hmem with hmem | hmem
      · rcases List.mem_append.mp hmem with hmem | hmem
        · exact .inl (.inl (.inl (mentions_of_mem_allIn h body hmem (depth + 1))))
        · exact .inl (.inl (.inr (mentions_of_mem_allInHandlers h handlers hmem (depth + 2))))
      · exact .inl (.inr (mentions_of_mem_allIn h otherwise hmem (depth + 1)))
    · exact .inr (mentions_of_mem_allIn h finally_ hmem (depth + 1))
  | _ => cases hmem

/-- **What a statement mentions, the statements around it do**, at any depth. -/
lemma mentions_of_mem_allIn (h : ∀ depth, Mentions name (inner.names depth))
    (body : List Stmt) (hmem : inner ∈ allIn body) (depth : Nat) :
    Mentions name (namesInBody depth body) := by
  cases body with
  | nil => cases hmem
  | cons stmt rest =>
    rw [namesInBody, mentions_append]
    rw [allIn, List.mem_append] at hmem
    exact hmem.imp (mentions_of_mem_all h stmt · depth) (mentions_of_mem_allIn h rest · depth)

lemma mentions_of_mem_allInHandlers (h : ∀ depth, Mentions name (inner.names depth))
    (handlers : List Handler) (hmem : inner ∈ allInHandlers handlers) (depth : Nat) :
    Mentions name (namesInHandlers depth handlers) := by
  match handlers with
  | [] => cases hmem
  | .mk span type bound body :: rest =>
    rw [namesInHandlers, mentions_append, mentions_append]
    rw [allInHandlers, List.mem_append] at hmem
    rcases hmem with hmem | hmem
    · exact .inl (.inr (mentions_of_mem_allIn h body hmem depth))
    · exact .inr (mentions_of_mem_allInHandlers h rest hmem depth)

lemma mentions_of_mem_allInCases (h : ∀ depth, Mentions name (inner.names depth))
    (cases : List MatchCase) (hmem : inner ∈ allInCases cases) (depth : Nat) :
    Mentions name (namesInCases depth cases) := by
  match cases with
  | [] => cases hmem
  | .mk pattern guard body :: rest =>
    rw [namesInCases, mentions_append, mentions_append, mentions_append]
    rw [allInCases, List.mem_append] at hmem
    rcases hmem with hmem | hmem
    · exact .inl (.inr (mentions_of_mem_allIn h body hmem depth))
    · exact .inr (mentions_of_mem_allInCases h rest hmem depth)

end

end Code

open Code

/-! ## Writes in the split -/

namespace Usage

variable {source : List Char} {usage : Usage} {block : Block} {constants : List String}

/-- Every name that a text writes to is one that it refers to. -/
lemma mutated_subset_referenced (h : Usage.ofText source = .ok usage) :
    usage.mutated ⊆ usage.referenced := by
  intro name hmutated
  obtain ⟨stmt, hstmt, target, htarget, hroot, -⟩ := (mem_mutated_iff h).mp hmutated
  have hmentions : Mentions name (namesInBody 1 usage.statements) :=
    mentions_of_mem_allIn (mentions_of_mem_targets htarget hroot) usage.statements hstmt 1
  obtain ⟨-, -, -, hreferenced, -⟩ := ofText_eq_ok_iff.mp h
  rw [hreferenced]
  exact mem_firstOccurrences.mpr hmentions.inOrder

/-- A usage that refers to what it writes to hides no write from the split. -/
lemma split_mutated (h : usage.mutated ⊆ usage.referenced) :
    (usage.split block constants).mutated = block.visible.filter usage.mutated.contains := by
  have hfilter : (usage.split block constants).mutated =
      block.visible.filter fun name => usage.mutates name && usage.references name :=
    List.filter_filter
  rw [hfilter]
  refine List.filter_congr fun name _ => ?_
  rw [Bool.eq_iff_iff, Bool.and_eq_true, List.contains_iff_mem]
  constructor
  · rintro ⟨hmutates, -⟩
    exact List.contains_iff_mem.mp hmutates
  · intro hmem
    exact ⟨List.contains_iff_mem.mpr hmem, List.contains_iff_mem.mpr (h hmem)⟩

/-- **A split is refused for want of a write** exactly if nothing visible is written to. -/
lemma splitRoles_eq_noMutation_iff (block : Block) (constants : List String) (usage : Usage) :
    (∃ function names, splitRoles block constants usage = .error (.noMutation function names)) ↔
      (usage.split block constants).mutated = [] := by
  rw [splitRoles_eq]
  dsimp only
  constructor
  · rintro ⟨function, names, h⟩
    split at h
    · next hempty => exact List.isEmpty_iff.mp hempty
    -- the other grounds, and success, are different
    · split at h
      · cases h
      · split at h <;> cases h
  · intro hempty
    rw [if_pos (List.isEmpty_iff.mpr hempty)]
    exact ⟨_, _, rfl⟩

/-- **The split takes every visible variable that is written to.**  The names that a text writes to
are among those that it refers to, and neither list repeats one.  So a block that goes by its own
usage, given or not, writes to the visible variables that its text writes to, in the order of its
scope, and it is refused for want of a write exactly if there are none. -/
theorem mutated_of_ofText (h : Usage.ofText source = .ok usage) :
    usage.mutated.Nodup ∧ usage.referenced.Nodup ∧ usage.mutated ⊆ usage.referenced ∧
      ∀ (block : Block) (constants : List String), block.text = source →
        Roles.ofBlock block constants = Roles.ofUsage block constants usage ∧
        (∀ roles, (Roles.ofUsage block constants usage).result = .ok roles →
          roles.mutated = block.visible.filter usage.mutated.contains) ∧
        ((∃ function names, (Roles.ofUsage block constants usage).result =
            .error (.noMutation function names)) ↔
          ∀ name ∈ block.visible, name ∉ usage.mutated) := by
  have hsubset := mutated_subset_referenced h
  obtain ⟨-, -, -, hreferenced, writes, -, hmutated⟩ := ofText_eq_ok_iff.mp h
  refine ⟨?_, ?_, hsubset, fun block constants htext => ⟨?_, fun roles hroles => ?_, ?_⟩⟩
  · rw [hmutated]
    exact nodup_firstOccurrences _
  · rw [hreferenced]
    exact nodup_firstOccurrences _
  · rw [Roles.ofBlock, Block.usage, htext, h]
    rfl
  · rw [result_ofUsage] at hroles
    obtain ⟨-, rfl⟩ := splitRoles_eq_ok_iff.mp hroles
    exact split_mutated hsubset
  · rw [result_ofUsage, splitRoles_eq_noMutation_iff, split_mutated hsubset,
      List.filter_eq_nil_iff]
    simp only [List.contains_iff_mem]

/-- One write of two goes to a variable that is not visible, and one stands further right. -/
theorem mutated_of_ofText_partly_visible :
    ∃ usage, Usage.ofText "b[0] = a[i]\nif c: d[0] = 1\na[i] += d\n".toList = .ok usage ∧
      usage.mutated = ["b", "a"] ∧
      ∀ roles, (Roles.ofUsage ⟨"b[0] = a[i]\nif c: d[0] = 1\na[i] += d\n".toList, "f",
          .ofNames ["d", "a"] .object, false⟩ [] usage).result = .ok roles →
        roles.mutated = ["a"] := by
  obtain ⟨usage, husage, hmutated⟩ : ∃ usage,
      Usage.ofText "b[0] = a[i]\nif c: d[0] = 1\na[i] += d\n".toList = .ok usage ∧
        usage.mutated = ["b", "a"] :=
    exists_ok_of_decide (by decide +kernel)
  refine ⟨usage, husage, hmutated, fun roles hroles => ?_⟩
  obtain ⟨-, -, -, hsplit⟩ := mutated_of_ofText husage
  rw [(hsplit _ [] rfl).2.1 roles hroles, hmutated]
  decide

end Usage

end AdjointSynthesis

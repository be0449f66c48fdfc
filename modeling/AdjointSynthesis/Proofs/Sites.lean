import AdjointSynthesis.Proofs.Wrappers

/-!
# Functions of modules

A wrapper that is a function of a module has the text that stands there.  The module is not run to
find it: its statements are followed as far as they bind names, and the lines of the function are
cut out.

* `Code.Sites.find?_bindAll_of_last`: a function that a module ends with is what its name stands
  for.
* `Code.Site.exists_excerpt_eq`: the text of a function is some lines of its module, one after
  another.
* `Wrapper.block_ofModule?`: so such a wrapper needs no text to stand in, and takes its block from
  the module.
-/

namespace AdjointSynthesis

namespace Code

/-! ## Bindings -/

lemma bindAll_append (sites : Sites) (first second : List Stmt) :
    bindAll sites (first ++ second) = bindAll (bindAll sites first) second := by
  induction first generalizing sites with
  | nil => rfl
  | cons stmt rest ih => exact ih (stmt.bind sites)

/-- **The last definition counts**, whatever its name stood for before. -/
lemma Sites.find?_bindAll_of_last (sites : Sites) (before : List Stmt) (span : Span)
    (isAsync : Bool) (name : String) (parameters : Parameters) (body : List Stmt)
    (decorators : List Expr) (returned : Option Expr) :
    Sites.find? (bindAll sites
        (before ++ [.mk span (.function isAsync name parameters body decorators returned)])) name =
      some ⟨name, definitionLine span decorators⟩ := by
  rw [bindAll_append]
  simp only [bindAll, Stmt.bind, Sites.find?, List.lookup_cons_self, Option.join_some]

/-! ## Texts -/

lemma linesBefore_le (lines : List (List Char)) (count : Nat) :
    linesBefore lines count ≤ count := by
  induction count with
  | zero => exact Nat.le_refl 0
  | succ count ih =>
    rw [linesBefore]
    split
    · exact Nat.le_refl _
    · exact Nat.le_succ_of_le ih

/-- The text of a function begins on a line that a function may begin on, or the module does. -/
lemma mayBegin_linesBefore (lines : List (List Char)) (count : Nat) :
    linesBefore lines count = 0 ∨ mayBegin (lines.getD (linesBefore lines count) []) = true := by
  induction count with
  | zero => exact .inl rfl
  | succ count ih =>
    rw [linesBefore]
    split
    · next hbegins => exact .inr hbegins
    · exact ih

/-- **The text of a function is part of its module**: some lines, one after another.  The first of
them stands at or above the line where the function is found, and a function may begin there, or the
module does. -/
lemma Site.exists_excerpt_eq (site : Site) (lines : List (List Char)) :
    ∃ before text after, lines = before ++ text ++ after ∧ before.length ≤ site.line - 1 ∧
      (before = [] ∨ mayBegin ((text ++ after).head?.getD []) = true) ∧
      site.excerpt lines = Text.endLines text := by
  let count := linesBefore lines (site.line - 1)
  let rest := lines.drop count
  let last := definitionEnd 1 (rows (Text.endLines rest))
  refine ⟨lines.take count, rest.take last, rest.drop last, ?_, ?_, ?_, rfl⟩
  · rw [List.append_assoc, List.take_append_drop, List.take_append_drop]
  · rw [List.length_take]
    exact Nat.le_trans (Nat.min_le_left _ _) (linesBefore_le _ _)
  · rw [List.take_append_drop, List.head?_drop, ← List.getD_eq_getElem?_getD]
    refine (mayBegin_linesBefore lines (site.line - 1)).imp_left fun hnone => ?_
    rw [show count = 0 from hnone, List.take_zero]

end Code

/-! ## Wrappers -/

namespace Wrapper

variable {σ : Type} {module : List Char} {name : String} {run : σ → Except Failure Unit × σ}
  {wrapper : Wrapper σ}

/-- A wrapper with a text of its own takes its block from that, without a warning. -/
lemma block_of_source {text : List Char} (hsource : wrapper.source = .ok text) (scope : Scope)
    (fallback : Option (List Char)) : wrapper.block scope fallback =
      .lift ((Definition.ofText text).map fun definition =>
        ⟨definition.body, definition.name.getD wrapper.blockName, scope, false⟩) := by
  have htext : wrapper.text fallback = .pure (text, false) := by
    simp only [Wrapper.text, hsource]
  rw [Wrapper.block, htext]
  change Logged.bind (.lift (Definition.ofText text)) _ = _
  cases Definition.ofText text <;> rfl

/-- **A function of a module needs no stand-in.**  Its block is taken from lines of the module,
without a warning, whatever text is given beside it. -/
theorem block_ofModule? (h : ofModule? module name run = some wrapper) :
    ∃ before lines after, Code.moduleLines module = before ++ lines ++ after ∧
      ∀ scope fallback, wrapper.block scope fallback =
        .lift ((Definition.ofText (Text.endLines lines)).map fun definition =>
          ⟨definition.body, definition.name.getD wrapper.blockName, scope, false⟩) := by
  obtain ⟨⟨own, text⟩, hfunction, rfl⟩ := Option.map_eq_some_iff.mp h
  unfold Code.functionOf? at hfunction
  split at hfunction
  · cases hfunction
  · next statements hread =>
    obtain ⟨site, -, hsite⟩ := Option.map_eq_some_iff.mp hfunction
    obtain ⟨-, rfl⟩ := Prod.mk.inj hsite
    obtain ⟨before, lines, after, hlines, -, -, hexcerpt⟩ :=
      site.exists_excerpt_eq (Code.moduleLines module)
    exact ⟨before, lines, after, hlines, block_of_source (congrArg Except.ok hexcerpt)⟩

/-- A module that ends with a function has a wrapper for it. -/
theorem exists_ofModule?_of_last {before : List Code.Stmt} {span : Code.Span} {isAsync : Bool}
    {parameters : Code.Parameters} {body : List Code.Stmt} {decorators : List Code.Expr}
    {returned : Option Code.Expr}
    (hread : Code.read module = .ok (before ++
      [.mk span (.function isAsync name parameters body decorators returned)]))
    (run : σ → Except Failure Unit × σ) :
    ∃ wrapper, ofModule? module name run = some wrapper ∧ wrapper.name = some name := by
  obtain ⟨text, hfunction⟩ : ∃ text, Code.functionOf? module name = some (name, text) := by
    unfold Code.functionOf?
    rw [hread]
    dsimp only
    rw [Code.Sites.find?_bindAll_of_last]
    exact ⟨_, rfl⟩
  have hwrapper : ofModule? module name run = some ⟨some name, name, run, .ok text⟩ := by
    unfold ofModule?
    rw [hfunction]
    rfl
  exact ⟨_, hwrapper, rfl⟩

-- the second definition of a name hides the first one, and its decorator belongs to its text
example :
    let module := "def f():\n    pass\n@deco\ndef f():\n    a[0] = 1\nb = 2\n".toList
    (ofModule? module "f" fun state : Unit => (.ok (), state)).map Wrapper.source =
      some (.ok "@deco\ndef f():\n    a[0] = 1\n".toList) := by
  decide +kernel

end Wrapper

end AdjointSynthesis

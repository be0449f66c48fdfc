import AdjointSynthesis.Proofs.Identifiers
import AdjointSynthesis.Proofs.Reading.Starts
import AdjointSynthesis.Proofs.Usage
import AdjointSynthesis.Proofs.Wrappers

/-!
# The names of blocks

The name of a block is pasted into the definitions that are written for it.  It comes from the
function that a text defines, from whoever gives the text, or from the wrapper.  A function always
has an identifier for its name, and a given name is checked; the name of a wrapper is not.

* `Code.isIdentifier_functionName`: the functions of a program have identifiers for their names.
* `Block.isIdentifier_name`: so have the blocks of texts.
* `Wrapper.isIdentifier_name_iff`: a block of a wrapper has one if its text defines a function or the
  wrapper has an identifier for its own name.
* `Wrapper.extract_lambda`: a wrapper for which neither holds.
-/

namespace AdjointSynthesis

open Text

/-! ## The names of functions -/

namespace Code

/-- The name of a function. -/
def StmtForm.functionName? : StmtForm → Option String
  | .function _ name _ _ _ _ => some name
  | _ => none

lemma functionName?_eq_none {form : StmtForm} (h : form.isFunction = false) :
    form.functionName? = none := by
  cases form <;> first
    | rfl
    | cases h

/-- What is scanned as a name is an identifier. -/
lemma IsName.isIdentifier {word : List Char} (h : IsName word) : isIdentifier word = true := by
  obtain ⟨hne, -, hgood, -⟩ := h
  obtain ⟨c, rest, rfl⟩ := List.exists_cons_of_ne_nil hne
  rw [badCharacter?] at hgood
  split at hgood
  · next hstart =>
    rw [Text.isIdentifier, hstart, Bool.true_and, List.all_eq_true]
    intro d hd
    simpa using List.find?_eq_none.mp hgood d hd
  · cases hgood

/-- Names are identifiers, in their normal form as well. -/
lemma passesNames_isIdentifier : PassesNames fun name => Text.isIdentifier name.toList := by
  intro word hword
  simpa only [String.toList_ofList] using isIdentifier_normalForm hword.isIdentifier

section
variable {test : String → Bool} {context : Context} {sub : Grammar}

open Reader

lemma Grammar.yields_identifier (h : Tested test context) :
    Yields context identifier (test · = true) := by
  refine Triple.bind .take fun token => .pure ?_
  rintro _ ⟨i, -, -, htoken, hname⟩
  obtain ⟨hi, rfl⟩ := Array.getElem?_eq_some_iff.mp htoken
  exact ⟨trivial, h.names _ (Array.getElem_mem_toList hi) hname⟩

/-- The name of a function passes a test that names pass. -/
lemma Grammar.yields_functionName (h : Tested test context) (isAsync : Bool)
    (decoration : List Expr) : Yields context (functionForm sub isAsync decoration)
      (∀ name ∈ ·.functionName?, test name = true) := by
  unfold functionForm
  refine .perhaps fun _ => .behind fun _ => (yields_identifier h).bind fun name hname => ?_
  refine .behind fun _ => .behind fun _ => .behind fun _ => .behind fun _ => .behind fun _ => ?_
  exact .behind fun _ => .pure fun _ hmem => Option.some.inj hmem ▸ hname

end

/-- **The functions of a program have names**: they pass every test that names pass. -/
theorem functionName_of_read {test : String → Bool} (htest : PassesNames test) {text : List Char}
    {statements : List Stmt} (h : read text = .ok statements) :
    ∀ stmt ∈ statements, ∀ name ∈ stmt.form.functionName?, test name = true := by
  let c : Context := ⟨.ofText text, false, false⟩
  let Q (stmt : Stmt) : Prop := ∀ name ∈ stmt.form.functionName?, test name = true
  have htested : Tested test c := tested_ofText htest text false
  have hother {span : Span} {form : StmtForm} (hform : form.isFunction = false) :
      Q (.mk span form) := by
    intro name hmem
    rw [Stmt.form, functionName?_eq_none hform] at hmem
    cases hmem
  let steps := Grammar.stepsFor text
  have hholds : Grammar.FindsHolding c Q (fun _ => True) (Grammar.forgetful steps) := {
    other := fun span form hform => hother (by simp_all [StmtForm.isOther])
    assignment := Grammar.yields_isAssignment.weaken fun form hform =>
      ⟨fun span => hother (by cases form <;> first | rfl | cases hform), fun _ _ => trivial⟩
    function := fun decoration => .orElse .faults <| .statement <|
      Yields.weaken (.orElse (Grammar.yields_functionName htested false decoration)
        (Grammar.yields_functionName htested true decoration)) fun _ hform _ => hform
    block := .weaken .any fun _ _ _ _ => trivial
    elifBranch := .weaken .any fun _ _ _ _ => trivial }
  have hread := (read_eq_ok_iff (Nat.le_refl steps) statements).mp h
  intro stmt hmem
  exact ((Triple.of_readAll hholds.program trivial hread).2 stmt hmem).1

/-- The functions of a program have identifiers for their names. -/
theorem isIdentifier_functionName {text : List Char} {statements : List Stmt}
    (h : read text = .ok statements) :
    ∀ stmt ∈ statements, ∀ name ∈ stmt.form.functionName?, Text.isIdentifier name.toList = true :=
  functionName_of_read passesNames_isIdentifier h

end Code

/-! ## The names of blocks -/

/-- The function that a text defines has an identifier for its name. -/
lemma Definition.isIdentifier_name {source : List Char} {definition : Definition}
    (h : Definition.ofText source = .ok definition) {name : String}
    (hname : definition.name = some name) : isIdentifier name.toList = true := by
  rw [Definition.ofText] at h
  obtain ⟨statements, hread, h⟩ := bind_eq_ok_iff.mp h
  dsimp only at h
  split at h
  · obtain ⟨body, -, h⟩ := bind_eq_ok_iff.mp h
    cases h
    cases hname
    exact Code.isIdentifier_functionName (readProgram_eq_ok_iff.mp hread).2 _ List.mem_cons_self _ rfl
  · cases h
    cases hname

/-- **The blocks of texts have identifiers for their names.** -/
theorem Block.isIdentifier_name {source : List Char} {scope : Scope} {given : Option String}
    {block : Block} (h : Block.ofText source scope given = .ok block) :
    isIdentifier block.name.toList = true := by
  obtain ⟨definition, name, -, -, hidentifier, rfl⟩ := ofText_eq_ok_iff.mp h
  exact hidentifier

namespace Wrapper

variable {σ : Type} {wrapper : Wrapper σ} {scope : Scope} {fallback : Option (List Char)}
  {state : σ} {block : Block}

/-- A wrapper that has a text is read from it. -/
lemma isReadFrom_of_result_text {text : List Char} {isDegraded : Bool}
    (h : (wrapper.text fallback).result = .ok (text, isDegraded)) :
    wrapper.IsReadFrom fallback text isDegraded := by
  unfold Wrapper.text at h
  split at h
  · next own hsource =>
    cases h
    exact .recovered hsource
  · cases h
  · next problem other hsource =>
    cases h
    exact .standIn hsource rfl

/-- A block that is extracted is cut out of the text that the wrapper is read from. -/
lemma result_extract_eq_ok (h : (wrapper.extract scope fallback state).1.result = .ok block) :
    ∃ text isDegraded definition, wrapper.IsReadFrom fallback text isDegraded ∧
      Definition.ofText text = .ok definition ∧
      block = ⟨definition.body, definition.name.getD wrapper.blockName, scope, isDegraded⟩ := by
  unfold extract at h
  split at h
  · cases h
  · rw [Wrapper.block, Logged.result_bind] at h
    obtain ⟨⟨text, isDegraded⟩, htext, h⟩ := bind_eq_ok_iff.mp h
    have hread := isReadFrom_of_result_text htext
    obtain ⟨definition, hdefinition, h⟩ := bind_eq_ok_iff.mp (Logged.result_bind _ _ ▸ h)
    exact ⟨text, isDegraded, definition, hread, hdefinition, (Except.ok.inj h).symm⟩

/-- **When a block that is extracted has an identifier for its name**: the text that the wrapper is
read from defines a function, or else the wrapper has an identifier for its own name. -/
theorem isIdentifier_name_iff (h : (wrapper.extract scope fallback state).1.result = .ok block) :
    isIdentifier block.name.toList = true ↔
      (∃ text isDegraded definition, wrapper.IsReadFrom fallback text isDegraded ∧
        Definition.ofText text = .ok definition ∧ definition.name.isSome) ∨
      isIdentifier wrapper.blockName.toList = true := by
  obtain ⟨text, isDegraded, definition, hread, hdefinition, rfl⟩ := result_extract_eq_ok h
  cases hname : definition.name with
  | some name =>
    have hidentifier := Definition.isIdentifier_name hdefinition hname
    refine iff_of_true hidentifier (.inl ⟨text, isDegraded, definition, hread, hdefinition, ?_⟩)
    rw [hname, Option.isSome_some]
  | none =>
    refine ⟨.inr, ?_⟩
    rintro (⟨other, _, definition', hother, hdefinition', hsome⟩ | hown)
    · -- there is one text that the wrapper is read from
      have htexts := hread.result_text.symm.trans hother.result_text
      cases htexts
      rw [hdefinition] at hdefinition'
      cases hdefinition'
      rw [hname] at hsome
      cases hsome
    · exact hown

/-- A wrapper that does nothing and has a name and a text. -/
def idle (name : String) (text : List Char) : Wrapper Unit :=
  ⟨some name, "", fun state => (.ok (), state), .ok text⟩

/-- The name of a wrapper is pasted into definitions as it is, where the same name given with the same
text is refused. -/
theorem extract_lambda :
    ((idle "<lambda>" "f = lambda: a.fill(0)\n".toList).extract (.ofNames ["a"] .object)
        none ()).1.result =
      .ok ⟨"f = lambda: a.fill(0)\n".toList, "<lambda>", .ofNames ["a"] .object, false⟩ ∧
    isIdentifier "<lambda>".toList = false ∧
    Block.ofText "f = lambda: a.fill(0)\n".toList (.ofNames ["a"] .object) (some "<lambda>") =
      .error (.badName "<lambda>") := by
  have hdefinition : Definition.ofText "f = lambda: a.fill(0)\n".toList =
      .ok ⟨none, "f = lambda: a.fill(0)\n".toList⟩ := by decide +kernel
  have hname : isIdentifier "<lambda>".toList = false := by decide +kernel
  refine ⟨?_, hname, ?_⟩
  · have hread : (idle "<lambda>" "f = lambda: a.fill(0)\n".toList).IsReadFrom none
        "f = lambda: a.fill(0)\n".toList false := .recovered rfl
    have hrun : (idle "<lambda>" "f = lambda: a.fill(0)\n".toList).run () = (.ok (), ()) := rfl
    rw [extract_of_run_ok hrun, hread.result_block, hdefinition]
    rfl
  · exact Block.ofText_eq_error_iff.mpr (.inr ⟨_, hdefinition, .inr ⟨_, rfl, hname, rfl⟩⟩)

end Wrapper

end AdjointSynthesis

import AdjointSynthesis.Proofs.Namespaces
import AdjointSynthesis.Proofs.Reordering

/-!
# What a captured scope binds

A captured scope is a snapshot of the variables of two namespaces.  A variable of the globals hides a
local variable of its name; whatever is no variable hides nothing, and might as well not be there.

* `variableValue?`: the value that a name has as a variable of a namespace.
* `Scope.get?_capture`: the kinds of the captured variables.
* `Scope.capture_congr`: two captures of the same variables are the same scope, so that one binding
  less that is no variable makes no difference.
* `Scope.capture_inClosedForm`: all this for any two namespaces.
-/

namespace AdjointSynthesis

/-! ## Bindings without a name -/

namespace Bindings

variable {β : Type} {bindings other : Bindings β}

/-- The bindings of all other names. -/
def without (bindings : Bindings β) (name : String) : Bindings β :=
  ⟨bindings.entries.filter fun entry => entry.1 != name,
    bindings.distinct.sublist (List.filter_sublist.map Prod.fst)⟩

lemma eq_of_entries_eq (h : bindings.entries = other.entries) : bindings = other := by
  cases bindings
  cases h
  rfl

end Bindings

/-! ## The variables of a namespace by name -/

/-- The value that a name has as a variable of a namespace. -/
def variableValue? (bindings : Bindings Value) (name : String) : Option Value :=
  (bindings.get? name).filter (isVariable name)

section
variable {bindings : Bindings Value} {name : String} {value : Value}

lemma variableValue?_eq_some_iff :
    variableValue? bindings name = some value ↔ (name, value) ∈ variableEntries bindings := by
  rw [variableValue?, Option.filter_eq_some_iff, Bindings.get?,
    Bindings.lookup_eq_some_iff_mem bindings.distinct, variableEntries, List.mem_filter]

lemma nodup_variableNames (bindings : Bindings Value) : (variableNames bindings).Nodup :=
  bindings.distinct.sublist (List.filter_sublist.map Prod.fst)

lemma lookup_variableEntries (bindings : Bindings Value) (name : String) :
    (variableEntries bindings).lookup name = variableValue? bindings name := by
  refine Option.ext fun value => ?_
  rw [Bindings.lookup_eq_some_iff_mem (nodup_variableNames bindings), variableValue?_eq_some_iff]

lemma mem_variableNames_iff :
    name ∈ variableNames bindings ↔ (variableValue? bindings name).isSome = true := by
  rw [variableNames, List.mem_map, Option.isSome_iff_exists]
  constructor
  · rintro ⟨⟨_, value⟩, hmem, rfl⟩
    exact ⟨value, variableValue?_eq_some_iff.mpr hmem⟩
  · rintro ⟨value, hvalue⟩
    exact ⟨(name, value), variableValue?_eq_some_iff.mp hvalue, rfl⟩

/-- A name that is no variable can be left out without any variable getting lost. -/
lemma variableEntries_without (h : variableValue? bindings name = none) :
    variableEntries (bindings.without name) = variableEntries bindings := by
  rw [variableEntries, Bindings.without, List.filter_filter]
  refine List.filter_congr fun entry hentry => ?_
  cases hvariable : isVariable entry.1 entry.2 with
  | false => exact Bool.false_and _
  | true =>
    have hvalue : variableValue? bindings entry.1 = some entry.2 :=
      variableValue?_eq_some_iff.mpr (List.mem_filter.mpr ⟨hentry, hvariable⟩)
    have hne : entry.1 ≠ name := by
      rintro rfl
      rw [h] at hvalue
      cases hvalue
    rw [Bool.true_and, bne_iff_ne]
    exact hne

end

/-! ## Looking up what is captured -/

lemma lookup_map_captured (entries : List (String × Value)) (name : String) :
    (entries.map captured).lookup name = (entries.lookup name).map Value.kind := by
  induction entries with
  | nil => rfl
  | cons entry rest ih =>
    rw [List.map_cons, captured, List.lookup_cons, List.lookup_cons, ih]
    split <;> rfl

lemma lookup_filter_fst {β : Type} (keep : String → Bool) (entries : List (String × β))
    (name : String) : (entries.filter fun entry => keep entry.1).lookup name =
      if keep name then entries.lookup name else none := by
  induction entries with
  | nil => simp
  | cons entry rest ih =>
    obtain ⟨key, found⟩ := entry
    rw [List.filter_cons, List.lookup_cons]
    by_cases hkey : name = key
    · subst hkey
      cases hkeep : keep name with
      | true => simp
      | false => simp [ih, hkeep]
    · rw [beq_false_of_ne hkey, ← ih]
      dsimp only
      split
      · rw [List.lookup_cons, beq_false_of_ne hkey]
      · rfl

namespace Scope

variable {locals globals : Bindings Value}

/-- **The kind of a captured variable** is that of its value in the globals, or else in the locals. -/
theorem get?_capture (locals globals : Bindings Value) (name : String) :
    (capture locals globals).get? name =
      ((variableValue? globals name).or (variableValue? locals name)).map Value.kind := by
  have hlocals := lookup_filter_fst (fun name => !(variableNames globals).contains name)
    (variableEntries locals) name
  rw [Bindings.get?, entries_capture, lookup_map_captured, List.lookup_append,
    lookup_variableEntries, hlocals, lookup_variableEntries]
  cases hglobal : variableValue? globals name with
  | some value => rfl
  | none =>
    -- the filter keeps what the locals bind the name to
    have hfree : name ∉ variableNames globals := by simp [mem_variableNames_iff, hglobal]
    simp [hfree]

/-! ## What captures do not depend on -/

/-- Captures see the variables of the two namespaces and nothing else. -/
lemma capture_congr {locals' globals' : Bindings Value}
    (hlocals : variableEntries locals' = variableEntries locals)
    (hglobals : variableEntries globals' = variableEntries globals) :
    capture locals' globals' = capture locals globals := by
  refine Bindings.eq_of_entries_eq ?_
  rw [entries_capture, entries_capture, variableNames, variableNames, hlocals, hglobals]

/-- **One namespace given twice** is captured like that namespace alone. -/
lemma capture_self (bindings : Bindings Value) :
    capture bindings bindings = capture .empty bindings := by
  refine Bindings.eq_of_entries_eq ?_
  have hseen : (variableEntries bindings).filter
      (fun entry => !(variableNames bindings).contains entry.1) = [] := by
    refine List.filter_eq_nil_iff.mpr fun entry hentry => ?_
    have hmem : entry.1 ∈ variableNames bindings := List.mem_map_of_mem hentry
    simp [hmem]
  rw [entries_capture, entries_capture, hseen]
  rfl

/-- It does not matter which of the two namespaces is missing. -/
lemma capture_alone (bindings : Bindings Value) :
    capture bindings .empty = capture .empty bindings := by
  refine Bindings.eq_of_entries_eq ?_
  have hnew : (variableEntries bindings).filter
      (fun entry => !(variableNames .empty).contains entry.1) = variableEntries bindings :=
    List.filter_eq_self.mpr fun _ _ => rfl
  rw [entries_capture, entries_capture, hnew]
  exact congrArg (List.map captured) (List.append_nil _).symm

/-! ## Both namespaces -/

/-- **Capturing in closed form.**  The variables of the globals come first, then the local variables
that are none of the globals, both in their order; the globals decide on the kinds.  A binding that is
no variable makes no difference, so nothing is hidden by a function or a module.  A namespace that
stands for both is captured as if only one of the two were there, and which one is all the same. -/
theorem capture_inClosedForm (locals globals : Bindings Value) :
    (capture locals globals).names = variableNames globals ++
        (variableNames locals).filter (fun name => name ∉ variableNames globals) ∧
      (∀ name, (capture locals globals).get? name =
        ((variableValue? globals name).or (variableValue? locals name)).map Value.kind) ∧
      (∀ name, variableValue? locals name = none →
        capture (locals.without name) globals = capture locals globals) ∧
      (∀ name, variableValue? globals name = none →
        capture locals (globals.without name) = capture locals globals) ∧
      ∀ bindings, capture bindings bindings = capture .empty bindings ∧
        capture bindings .empty = capture .empty bindings := by
  refine ⟨?_, get?_capture locals globals, fun name h => ?_, fun name h => ?_,
    fun bindings => ⟨capture_self bindings, capture_alone bindings⟩⟩
  · have hfree (name : String) : (!(variableNames globals).contains name) =
        decide (name ∉ variableNames globals) := by simp
    rw [names_capture]
    simp only [hfree]
  · exact capture_congr (variableEntries_without h) rfl
  · exact capture_congr rfl (variableEntries_without h)

/-- A variable of both namespaces, and one that a function of the globals is named like. -/
theorem capture_inClosedForm_function :
    let data : Value := ⟨false, true, false, false, false, false, false, false, false⟩
    let number : Value := ⟨false, false, false, true, true, false, false, false, false⟩
    let function : Value := ⟨false, false, false, false, false, false, false, false, true⟩
    let module : Value := ⟨false, false, false, false, false, true, false, false, false⟩
    let globals : Bindings Value :=
      .ofList [("np", module), ("f", function), ("i", number), ("a", data)]
    let locals : Bindings Value :=
      .ofList [("_t", number), ("i", data), ("f", data), ("a", function), ("x", number)]
    (variableValue? globals "f" = none ∧ variableValue? locals "_t" = none) ∧
      (capture locals globals).names = ["i", "a", "f", "x"] ∧
      (capture locals globals).get? "i" = some .integer ∧
      (capture locals globals).get? "f" = some .array ∧
      capture locals (globals.without "f") = capture locals globals ∧
      capture (locals.without "_t") globals = capture locals globals := by
  intro data number function module globals locals
  have hfunction : variableValue? globals "f" = none := by decide +kernel
  have hprivate : variableValue? locals "_t" = none := by decide +kernel
  obtain ⟨hnames, hkinds, hlocals, hglobals, -⟩ := capture_inClosedForm locals globals
  exact ⟨⟨hfunction, hprivate⟩, hnames.trans (by decide +kernel),
    (hkinds "i").trans (by decide +kernel), (hkinds "f").trans (by decide +kernel),
    hglobals "f" hfunction, hlocals "_t" hprivate⟩

end Scope

end AdjointSynthesis

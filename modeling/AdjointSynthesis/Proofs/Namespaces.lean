import AdjointSynthesis.Proofs.Shapes

/-!
# Captured namespaces

A scope is captured from two namespaces, entry by entry, and an entry that is not a variable leaves
no mark: it is neither captured nor does it stand in the way of a later variable with its name.  So
a captured scope is made of the variables of both namespaces alone.

* `entries_capture`: the captured scope in closed form.
* `registerAll_iterations`: a loop that captures its namespaces again and again has one shape, as
  long as the variables in them stay the same.
-/

namespace AdjointSynthesis

/-! ## Variables of a namespace -/

/-- The entries of a namespace that are variables, in their order. -/
def variableEntries (bindings : Bindings Value) : List (String × Value) :=
  bindings.entries.filter fun entry => isVariable entry.1 entry.2

/-- The names of the variables of a namespace, in their order. -/
def variableNames (bindings : Bindings Value) : List String :=
  (variableEntries bindings).map Prod.fst

/-- A variable as it is captured. -/
def captured (entry : String × Value) : String × Kind := (entry.1, entry.2.kind)

lemma putEntry_of_not_mem {β : Type} {name : String} {value : β} {entries : List (String × β)}
    (h : name ∉ entries.map Prod.fst) :
    putEntry name value entries = entries ++ [(name, value)] := by
  induction entries with
  | nil => rfl
  | cons entry rest ih =>
    rw [List.map_cons, List.mem_cons, not_or] at h
    rw [putEntry, if_neg (Ne.symm h.1), ih h.2, List.cons_append]

namespace Scope

/-! ## The captured scope -/

lemma contains_iff (scope : Scope) (name : String) :
    scope.contains name = true ↔ name ∈ scope.entries.map Prod.fst :=
  List.contains_iff_mem

/-- Capturing one entry puts it behind the others, if it is a new variable. -/
lemma entries_capturing (scope : Scope) (name : String) (value : Value) :
    (scope.capturing name value).entries =
      scope.entries ++
        if !scope.contains name && isVariable name value then [(name, value.kind)] else [] := by
  unfold capturing
  split
  · next h =>
    have hfresh : name ∉ scope.entries.map Prod.fst := by
      intro hmem
      rw [(scope.contains_iff name).mpr hmem] at h
      nomatch h
    exact putEntry_of_not_mem hfresh
  · rw [List.append_nil]

/-- Capturing entries with different names puts the variables among them behind the others, except
for those whose names were seen before. -/
lemma entries_foldl_capturing (entries : List (String × Value))
    (hdistinct : (entries.map Prod.fst).Nodup) (scope : Scope) :
    (entries.foldl (fun scope entry => scope.capturing entry.1 entry.2) scope).entries =
      scope.entries ++ ((entries.filter fun entry => isVariable entry.1 entry.2).filter
        fun entry => !scope.contains entry.1).map captured := by
  induction entries generalizing scope with
  | nil => exact (List.append_nil _).symm
  | cons entry rest ih =>
    rw [List.map_cons, List.nodup_cons] at hdistinct
    obtain ⟨hhead, hrest⟩ := hdistinct
    -- what is captured now has another name than all entries to come
    have hsame : ∀ other ∈ rest.filter (fun entry => isVariable entry.1 entry.2),
        (!(scope.capturing entry.1 entry.2).contains other.1) = !scope.contains other.1 := by
      intro other hother
      have hne : other.1 ≠ entry.1 := by
        intro heq
        exact hhead (heq ▸ List.mem_map_of_mem (List.mem_of_mem_filter hother))
      congr 1
      rw [Bool.eq_iff_iff, contains_iff, contains_iff, entries_capturing, List.map_append,
        List.mem_append]
      split <;> simp [hne]
    rw [List.foldl_cons, ih hrest, List.filter_congr hsame, entries_capturing, List.append_assoc]
    congr 1
    cases hvariable : isVariable entry.1 entry.2 <;> cases hseen : scope.contains entry.1 <;>
      simp [hvariable, hseen, captured]

/-- **A captured scope in closed form**: the variables of the globals, then those of the locals that
are no variables of the globals. -/
theorem entries_capture (locals globals : Bindings Value) :
    (capture locals globals).entries =
      (variableEntries globals ++ (variableEntries locals).filter
        fun entry => !(variableNames globals).contains entry.1).map captured := by
  have hglobals := entries_foldl_capturing globals.entries globals.distinct .empty
  have hnone : (globals.entries.filter fun entry => isVariable entry.1 entry.2).filter
      (fun entry => !(Bindings.empty : Scope).contains entry.1) = variableEntries globals :=
    List.filter_eq_self.mpr fun _ _ => rfl
  rw [hnone] at hglobals
  rw [capture, List.foldl_append, entries_foldl_capturing _ locals.distinct, hglobals]
  generalize globals.entries.foldl (fun (scope : Scope) entry => scope.capturing entry.1 entry.2)
    .empty = seen at hglobals ⊢
  have hseen (name : String) : seen.contains name = (variableNames globals).contains name := by
    rw [Bindings.contains, Bindings.names, hglobals]
    simp [variableNames, captured, Bindings.empty, Function.comp_def]
  simp only [hseen, List.map_append]
  rfl

/-- The names of a captured scope are settled by the names of the variables. -/
lemma names_capture (locals globals : Bindings Value) :
    (capture locals globals).names =
      variableNames globals ++
        (variableNames locals).filter fun name => !(variableNames globals).contains name := by
  rw [Bindings.names, entries_capture, List.map_map, List.map_append]
  have hfst : Prod.fst ∘ captured = (Prod.fst : String × Value → String) := rfl
  rw [hfst, variableNames, variableNames, List.filter_map]
  rfl

end Scope

/-! ## Loops -/

/-- One iteration of a loop: the namespaces when it captures its scope, and what it registers with
that scope. -/
structure Iteration where
  locals : Bindings Value
  globals : Bindings Value
  source : List Char
  name : String
  isDegraded : Bool

namespace Iteration

/-- The scope that an iteration captures. -/
def scope (iteration : Iteration) : Scope := .capture iteration.locals iteration.globals

/-- The block that an iteration registers. -/
def block (iteration : Iteration) : Block :=
  ⟨iteration.source, iteration.name, iteration.scope, iteration.isDegraded⟩

/-- Whether two iterations see the same variables, the order included.  Whatever else is bound, and
to what the variables are bound, does not count. -/
structure SeesTheSame (iteration other : Iteration) : Prop where
  globals : variableNames iteration.globals = variableNames other.globals
  locals : variableNames iteration.locals = variableNames other.locals

lemma SeesTheSame.names_scope {iteration other : Iteration} (h : iteration.SeesTheSame other) :
    iteration.scope.names = other.scope.names := by
  rw [scope, scope, Scope.names_capture, Scope.names_capture, h.globals, h.locals]

end Iteration

namespace Registry

/-- The registry after a first block knows all blocks that see the same variables. -/
lemma position?_push_empty {first block : Block} (h : block.visible = first.visible) :
    (empty.push first).position? block.visible = some 0 := by
  have hholds : (empty.push first).Holds [first] := (holds_empty.register first).1
  exact hholds.position?_eq_some_iff.mpr ⟨first, rfl, by rw [Block.shape, h]⟩

/-- **A loop registers one shape.**  When all iterations see the same variables, they capture the
same names, the first of them is registered, and each later one finds it again. -/
theorem registerAll_iterations (first : Iteration) (rest : List Iteration)
    (h : ∀ later ∈ rest, later.SeesTheSame first) :
    (∀ later ∈ rest, later.scope.names = first.scope.names) ∧
      (empty.registerAll ((first :: rest).map Iteration.block)).2 =
        .ok ⟨true, 0⟩ :: rest.map (fun _ => .ok ⟨false, 0⟩) ∧
      (empty.registerAll ((first :: rest).map Iteration.block)).1.blocks = [first.block] := by
  have hnames : ∀ later ∈ rest, later.scope.names = first.scope.names :=
    fun later hlater => (h later hlater).names_scope
  obtain ⟨hregistry, hresult⟩ := register_of_position?_eq_none
    (show empty.position? first.block.visible = none from rfl)
  have hknown : ∀ block ∈ rest.map Iteration.block,
      (empty.push first.block).position? block.visible = some 0 := by
    intro block hblock
    obtain ⟨later, hlater, rfl⟩ := List.mem_map.mp hblock
    exact position?_push_empty (hnames later hlater)
  have hrest := registerAll_of_position? hknown
  refine ⟨hnames, ?_, ?_⟩
  · rw [List.map_cons, registerAll_cons, hregistry, hresult, hrest, List.map_map]
    rfl
  · rw [List.map_cons, registerAll_cons, hregistry, hrest]
    rfl

/-- A function of the globals that a local variable is named like, and a module that only the first
iteration sees. -/
theorem registerAll_two_iterations :
    let data : Value := ⟨false, true, false, false, false, false, false, false, false⟩
    let number : Value := ⟨false, false, false, true, true, false, false, false, false⟩
    let function : Value := ⟨false, false, false, false, false, false, false, false, true⟩
    let module : Value := ⟨false, false, false, false, false, true, false, false, false⟩
    let first : Iteration :=
      ⟨.ofList [("i", number), ("f", data), ("_t", number)],
        .ofList [("np", module), ("f", function), ("a", data)], "a[i] = f\n".toList, "f1", false⟩
    let later : Iteration :=
      ⟨.ofList [("g", function), ("i", data), ("f", number)],
        .ofList [("a", number), ("i", function)], "a[i] = 1\n".toList, "f2", true⟩
    later.SeesTheSame first ∧
      first.scope.names = ["a", "i", "f"] ∧ later.scope.names = ["a", "i", "f"] ∧
      (empty.registerAll ([first, later].map Iteration.block)).2 =
        [.ok ⟨true, 0⟩, .ok ⟨false, 0⟩] ∧
      (empty.registerAll ([first, later].map Iteration.block)).1.blocks = [first.block] := by
  intro data number function module first later
  have hsame : later.SeesTheSame first := ⟨by decide +kernel, by decide +kernel⟩
  have hfirst : first.scope.names = ["a", "i", "f"] := by decide +kernel
  obtain ⟨hnames, hresults, hblocks⟩ :=
    registerAll_iterations first [later] (List.forall_mem_singleton.mpr hsame)
  exact ⟨hsame, hfirst, (hnames later List.mem_cons_self).trans hfirst, hresults, hblocks⟩

end Registry

end AdjointSynthesis

/-!
# Bindings

Names bound to values, in the order in which they were first bound.  A name is bound once: binding
it again changes its value and leaves its position.

* `get?_put` says what a name is bound to after a binding.
* `names_put_of_mem` and `names_put_of_not_mem` say what happens to the names.
-/

namespace AdjointSynthesis

/-- Entries with a name bound to a value: at its old position, or behind all others. -/
def putEntry {β : Type} (name : String) (value : β) : List (String × β) → List (String × β)
  | [] => [(name, value)]
  | entry :: rest =>
    if entry.1 = name then (name, value) :: rest else entry :: putEntry name value rest

theorem keys_putEntry {β : Type} (name : String) (value : β) (entries : List (String × β)) :
    (putEntry name value entries).map Prod.fst =
      if name ∈ entries.map Prod.fst then entries.map Prod.fst
      else entries.map Prod.fst ++ [name] := by
  induction entries with
  | nil => simp [putEntry]
  | cons entry rest ih =>
    rw [putEntry]
    by_cases h : entry.1 = name
    · simp [h]
    · have h' : ¬name = entry.1 := fun e => h e.symm
      rw [if_neg h]
      simp only [List.map_cons, ih, List.mem_cons, h', false_or]
      split <;> simp

theorem nodup_keys_putEntry {β : Type} {name : String} {value : β} {entries : List (String × β)}
    (h : (entries.map Prod.fst).Nodup) : ((putEntry name value entries).map Prod.fst).Nodup := by
  rw [keys_putEntry]
  split
  · exact h
  · next hn =>
    rw [List.nodup_append]
    refine ⟨h, by simp, ?_⟩
    intro a ha b hb e
    rw [List.mem_singleton] at hb
    exact hn (hb ▸ e ▸ ha)

/-- Names bound to values, each name once. -/
structure Bindings (β : Type) where
  entries : List (String × β)
  distinct : (entries.map Prod.fst).Nodup

namespace Bindings

variable {β : Type}

/-- No names at all. -/
def empty : Bindings β := ⟨[], List.nodup_nil⟩

instance : Inhabited (Bindings β) := ⟨empty⟩

/-- The names in their order. -/
def names (b : Bindings β) : List String := b.entries.map Prod.fst

/-- The value that a name is bound to. -/
def get? (b : Bindings β) (name : String) : Option β := b.entries.lookup name

/-- Whether a name is bound. -/
def contains (b : Bindings β) (name : String) : Bool := b.names.contains name

/-- Binds a name to a value. -/
def put (b : Bindings β) (name : String) (value : β) : Bindings β :=
  ⟨putEntry name value b.entries, nodup_keys_putEntry b.distinct⟩

/-- The bindings of some entries, each in its turn. -/
def ofList (entries : List (String × β)) : Bindings β :=
  entries.foldl (fun b entry => b.put entry.1 entry.2) empty

/-- Whether two bindings bind the same names to the same values, in any order. -/
def same [DecidableEq β] (b c : Bindings β) : Bool :=
  b.entries.all (c.entries.contains ·) && c.entries.all (b.entries.contains ·)

theorem nodup_names (b : Bindings β) : b.names.Nodup := b.distinct

theorem names_put_of_mem {b : Bindings β} {name : String} {value : β} (h : name ∈ b.names) :
    (b.put name value).names = b.names := by
  simp only [names, put, keys_putEntry]
  exact if_pos h

theorem names_put_of_not_mem {b : Bindings β} {name : String} {value : β} (h : name ∉ b.names) :
    (b.put name value).names = b.names ++ [name] := by
  simp only [names, put, keys_putEntry]
  exact if_neg h

theorem get?_put (b : Bindings β) (name other : String) (value : β) :
    (b.put name value).get? other = if other = name then some value else b.get? other := by
  simp only [get?, put]
  induction b.entries with
  | nil =>
    by_cases h : other = name
    · simp [putEntry, h]
    · have : (other == name) = false := by simp [h]
      simp [putEntry, List.lookup_cons, this, h]
  | cons entry rest ih =>
    obtain ⟨key, found⟩ := entry
    rw [putEntry]
    by_cases hn : key = name
    · rw [if_pos hn]
      by_cases h : other = name
      · simp [h]
      · have h1 : (other == name) = false := by simp [h]
        have h2 : (other == key) = false := by simp [hn, h]
        simp [List.lookup_cons, h1, h2, h]
    · rw [if_neg hn]
      by_cases h : other = key
      · have : ¬other = name := fun e => hn (h ▸ e)
        simp [h, hn]
      · have h2 : (other == key) = false := by simp [h]
        simpa [List.lookup_cons, h2] using ih

end Bindings

end AdjointSynthesis

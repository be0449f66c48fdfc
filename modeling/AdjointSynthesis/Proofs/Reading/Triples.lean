import AdjointSynthesis.Code.Grammar.Terminals
import Mathlib.Tactic.Common

/-!
# Triples

What holds behind a reader if something holds before it.  What is asked before a reader is about its
position; what holds behind it is about the value that it finds and the position behind that.  A
reader that finds nothing or refuses the text satisfies every triple.

* `Triple` and one lemma for each way of putting readers together.
* `Yields`: a property of what is found, with the same condition on positions before and behind.
-/

namespace AdjointSynthesis.Code

open Reader

/-- Behind a reader that starts where a condition holds, what it finds has a property. -/
def Triple {α : Type} (context : Context) (before : Nat → Prop) (reader : Reader α)
    (behind : α → Nat → Prop) : Prop :=
  ∀ position progress value next after, before position →
    reader context position progress = (.found value next, after) → behind value next

section
variable {α β : Type} {context : Context} {r r' : Reader α} {f : α → Reader β} {I J : Nat → Prop}

/-! ## Triples of readers that are put together -/

namespace Triple

variable {Q Q' : α → Nat → Prop} {R : β → Nat → Prop}

lemma weaken (h : Triple context I r Q) (hbefore : ∀ i, J i → I i)
    (hbehind : ∀ a i, Q a i → Q' a i) : Triple context J r Q' :=
  fun _ _ _ _ _ hposition hfound => hbehind _ _ (h _ _ _ _ _ (hbefore _ hposition) hfound)

lemma and (h : Triple context I r Q) (h' : Triple context I r Q') :
    Triple context I r fun a i => Q a i ∧ Q' a i :=
  fun _ _ _ _ _ hposition hfound =>
    ⟨h _ _ _ _ _ hposition hfound, h' _ _ _ _ _ hposition hfound⟩

lemma any : Triple context I r fun _ _ => True := fun _ _ _ _ _ _ _ => trivial

/-- What holds from each position on holds from all of them on. -/
lemma of_forall (h : ∀ d, I d → Triple context (· = d) r Q) : Triple context I r Q :=
  fun position _ _ _ _ hposition hfound => h position hposition _ _ _ _ _ rfl hfound

lemma pure {a : α} (h : ∀ i, I i → Q a i) : Triple context I (Pure.pure a : Reader α) Q := by
  intro _ _ _ _ _ hposition hfound
  cases hfound
  exact h _ hposition

lemma nothing : Triple context I (Reader.nothing : Reader α) Q := by
  intro _ _ _ _ _ _ hfound
  cases hfound

lemma bind (h : Triple context I r Q) (hf : ∀ a, Triple context (Q a) (f a) R) :
    Triple context I (r >>= f) R := by
  intro position progress value next after hposition hfound
  change Reader.bind r f context position progress = _ at hfound
  unfold Reader.bind at hfound
  split at hfound
  · next hread => exact hf _ _ _ _ _ _ (h _ _ _ _ _ hposition hread) hfound
  · cases hfound
  · cases hfound

/-- What comes first does not matter for what holds wherever the rest starts. -/
lemma behind (hf : ∀ a, Triple context (fun _ => True) (f a) R) : Triple context I (r >>= f) R :=
  any.bind hf

/-- What does not depend on the position may be known beforehand. -/
lemma of_and {p : Prop} (h : p → Triple context I r Q) : Triple context (fun i => I i ∧ p) r Q :=
  fun _ _ _ _ _ hposition hfound => h hposition.2 _ _ _ _ _ hposition.1 hfound

lemma orElse (h : Triple context I r Q) (h' : Triple context I r' Q) :
    Triple context I (r <|> r') Q := by
  intro position progress value next after hposition hfound
  change Reader.orElse r (fun _ => r') context position progress = _ at hfound
  unfold Reader.orElse at hfound
  split at hfound
  · exact h' _ _ _ _ _ hposition hfound
  · exact h _ _ _ _ _ hposition hfound

/-- The search for faults finds nothing. -/
lemma faults {alternatives : List (Reader Unit)} :
    Triple context I (Reader.faults alternatives : Reader α) Q := by
  intro position progress value next after _ hfound
  unfold Reader.faults at hfound
  split at hfound
  · split at hfound <;> cases hfound
  · cases hfound

lemma optional {Q : Option α → Nat → Prop} (h : Triple context I r fun a i => Q (some a) i)
    (hnone : ∀ i, I i → Q none i) : Triple context I (Reader.optional r) Q := by
  intro position progress value next after hposition hfound
  unfold Reader.optional at hfound
  split at hfound
  · next hread =>
    cases hfound
    exact h _ _ _ _ _ hposition hread
  · cases hfound
    exact hnone _ hposition
  · cases hfound

lemma committed {tail : α → Reader β} (htail : ∀ a, Triple context (fun _ => True) (tail a) R) :
    Triple context I (Reader.committed r tail) fun found i => ∀ b ∈ found, R b i :=
  behind fun a => optional ((htail a).weaken (fun _ hi => hi) fun _ _ hfound _ hb => by
    cases hb; exact hfound) fun _ _ _ hb => by cases hb

lemma settle {r : Reader (Option α)} (h : Triple context I r fun found i => ∀ a ∈ found, Q a i) :
    Triple context I (Reader.settle r) Q := by
  refine h.bind fun found => ?_
  cases found with
  | none => exact nothing
  | some value => exact pure fun _ hfound => hfound value rfl

lemma iterateUpTo {step : α → Reader α} (hstep : ∀ a, Triple context (Q a) (step a) Q)
    (count : Nat) (value : α) : Triple context (Q value) (Reader.iterateUpTo step count value) Q := by
  -- the condition on the value found so far is the invariant of the loop
  induction count generalizing value with
  | zero => exact pure fun _ h => h
  | succ count ih =>
    intro position progress found next after hposition hfound
    unfold Reader.iterateUpTo at hfound
    split at hfound
    · next hread => exact ih _ _ _ _ _ _ (hstep value _ _ _ _ _ hposition hread) hfound
    · cases hfound
      exact hposition
    · cases hfound

lemma iterate {step : α → Reader α} (hstep : ∀ a, Triple context (Q a) (step a) Q) (value : α) :
    Triple context (Q value) (Reader.iterate step value) Q :=
  fun _ _ _ _ _ hposition hfound => iterateUpTo hstep _ value _ _ _ _ _ hposition hfound

/-- A token is looked at where it stands. -/
lemma peek : Triple context I Reader.peek fun token i =>
    I i ∧ context.source.tokens[i]? = some token := by
  intro position progress token next after hposition hfound
  unfold Reader.peek at hfound
  dsimp only at hfound
  split at hfound
  · next htoken =>
    cases hfound
    exact ⟨hposition, htoken⟩
  · split at hfound <;> cases hfound

/-- A token is taken where it stands. -/
lemma take {kind : Token.Kind} : Triple context I (Reader.take kind) fun token next =>
    ∃ i, I i ∧ next = i + 1 ∧ context.source.tokens[i]? = some token ∧ token.kind = kind := by
  refine peek.bind fun token => ?_
  split
  · next hkind =>
    refine bind (Q := fun _ next => ∃ i, I i ∧ next = i + 1 ∧
      context.source.tokens[i]? = some token ∧ token.kind = kind) ?_ fun _ => pure fun _ h => h
    intro position _ _ _ _ hposition hfound
    cases hfound
    exact ⟨position, hposition.1, rfl, hposition.2, hkind⟩
  · exact nothing

end Triple

end

/-! ## What is found -/

/-- What a reader finds in a context has a property.  It may also be asked that the reader keeps to
positions of some kind: from one of them on it ends at one of them. -/
def Yields {α : Type} (context : Context) (reader : Reader α) (property : α → Prop)
    (kept : Nat → Prop := fun _ => True) : Prop :=
  Triple context kept reader fun value position => kept position ∧ property value

section
variable {α β : Type} {context : Context} {I : Nat → Prop} {r r' : Reader α} {f : α → Reader β}
  {P Q : α → Prop} {R : β → Prop}

namespace Yields

lemma weaken (h : Yields context r P I) (hP : ∀ a, P a → Q a) : Yields context r Q I :=
  Triple.weaken h (fun _ hi => hi) fun a _ hfound => ⟨hfound.1, hP a hfound.2⟩

lemma and (h : Yields context r P I) (h' : Yields context r Q I) :
    Yields context r (fun a => P a ∧ Q a) I :=
  (Triple.and h h').weaken (fun _ hi => hi) fun _ _ hfound =>
    ⟨hfound.1.1, hfound.1.2, hfound.2.2⟩

lemma pure {a : α} (h : P a) : Yields context (Pure.pure a : Reader α) P I :=
  Triple.pure fun _ hi => ⟨hi, h⟩

lemma nothing : Yields context (Reader.nothing : Reader α) P I := Triple.nothing

lemma bind (h : Yields context r P I) (hf : ∀ a, P a → Yields context (f a) R I) :
    Yields context (r >>= f) R I :=
  Triple.bind h fun a => Triple.of_and (hf a)

lemma discard (h : Yields context r P I) : Yields context (Functor.discard r) (fun _ => True) I :=
  h.bind fun _ _ => pure trivial

lemma orElse (h : Yields context r P I) (h' : Yields context r' P I) :
    Yields context (r <|> r') P I := Triple.orElse h h'

lemma faults {alternatives : List (Reader Unit)} :
    Yields context (Reader.faults alternatives : Reader α) P I := Triple.faults

lemma optional (h : Yields context r P I) :
    Yields context (Reader.optional r) (∀ a ∈ ·, P a) I := by
  refine Triple.optional (Triple.weaken h (fun _ hi => hi) fun a i hfound => ?_) fun i hi => ?_
  · exact ⟨hfound.1, fun b hb => by cases hb; exact hfound.2⟩
  · exact ⟨hi, fun b hb => by cases hb⟩

lemma iterate {step : α → Reader α} {value : α} (h : P value)
    (hstep : ∀ a, P a → Yields context (step a) P I) :
    Yields context (Reader.iterate step value) P I :=
  (Triple.iterate (Q := fun a i => I i ∧ P a) (fun a => Triple.of_and (hstep a)) value).weaken
    (fun _ hi => ⟨hi, h⟩) fun _ _ hfound => hfound

lemma many (h : Yields context r P I) : Yields context (Reader.many r) (∀ a ∈ ·, P a) I := by
  refine bind (P := fun values : List α => ∀ a ∈ values, P a) ?_ fun values hvalues => ?_
  · refine iterate (fun _ ha => by cases ha) fun values hvalues => h.bind fun a ha => pure ?_
    exact List.forall_mem_cons.mpr ⟨ha, hvalues⟩
  · exact pure fun a ha => hvalues a (List.mem_reverse.mp ha)

lemma many1 (h : Yields context r P I) : Yields context (Reader.many1 r) (∀ a ∈ ·, P a) I :=
  h.bind fun _ ha => h.many.bind fun _ hmore => pure (List.forall_mem_cons.mpr ⟨ha, hmore⟩)

lemma separated_by {separator : Reader β} (hseparator : Yields context separator R I)
    (h : Yields context r P I) : Yields context (Reader.separated separator r) (∀ a ∈ ·, P a) I := by
  refine h.bind fun a ha => ?_
  exact (many (hseparator.discard.bind fun _ _ => h)).bind fun _ hmore =>
    pure (List.forall_mem_cons.mpr ⟨ha, hmore⟩)

lemma settle {r : Reader (Option α)} (h : Yields context r (∀ a ∈ ·, P a) I) :
    Yields context (Reader.settle r) P I :=
  Triple.settle (Triple.weaken h (fun _ hi => hi) fun _ _ hfound a ha => ⟨hfound.1, hfound.2 a ha⟩)

lemma unsettled (h : Yields context r P I) :
    Yields context (Reader.unsettled r) (∀ a ∈ ·, P a) I := by
  refine h.bind fun a ha => pure fun b hb => ?_
  cases hb
  exact ha

lemma committed {tail : α → Reader β} (h : Yields context r P I)
    (htail : ∀ a, P a → Yields context (tail a) R I) :
    Yields context (Reader.committed r tail) (∀ b ∈ ·, R b) I :=
  h.bind fun a ha => (htail a ha).optional

lemma any : Yields context r fun _ => True := fun _ _ _ _ _ _ _ => ⟨trivial, trivial⟩

/-- What comes first does not matter for the property. -/
lemma behind (hf : ∀ a, Yields context (f a) R) : Yields context (r >>= f) R :=
  any.bind fun a _ => hf a

/-- Nor does what comes first under a condition. -/
lemma perhaps {c : Bool} {first : Reader Unit} {next : Unit → Reader β}
    (hnext : ∀ a, Yields context (next a) R) :
    Yields context (if c = true then first >>= next else next ()) R := by
  split
  · exact behind hnext
  · exact hnext ()

lemma separated {separator : Reader β} (h : Yields context r P) :
    Yields context (Reader.separated separator r) (∀ a ∈ ·, P a) := separated_by any h

lemma commaSeparated (h : Yields context r P) :
    Yields context (Grammar.commaSeparated r) (∀ a ∈ ·, P a) :=
  h.separated.bind fun _ hvalues => behind fun _ => .pure hvalues

end Yields

end

end AdjointSynthesis.Code

import AdjointSynthesis.Code.Grammar.Terminals
import AdjointSynthesis.Proofs.Agreement.Combinators
import Mathlib.Data.List.Forall2

/-!
# Deriving agreement

The instances that derive the agreement of a reader from the way it is put together, and the values
that readers build from others: a value is like another when its parts are.

A class argument over a function quantifies over twins, values that are alike.
-/

namespace AdjointSynthesis.Code

/-- A test that is passed. -/
class Passes (test : Bool) : Prop where
  passes : test = true

instance passes_true : Passes true := ⟨rfl⟩

namespace Reader

section

variable {α β γ : Type} [Compared α] [Compared β] {p : Pairing} {later s t : Bool}

/-! ## Combinations -/

lemma Agree.weaken {r r' : Reader α} (h : Agree p later s r r') : Agree p later false r r' :=
  ⟨h.agrees.weaken⟩

instance agree_pure {a a' : α} [h : Similar p a a'] :
    Agree p later false (pure a : Reader α) (pure a') := ⟨.pure h.alike⟩

instance agree_bind_strict {r r' : Reader α} {f f' : α → Reader β} [h : Agree p later true r r']
    [hf : ∀ twin : Twin p α, Agree p true t (f twin.left) (f' twin.right)] :
    Agree p later true (r >>= f) (r' >>= f') :=
  ⟨h.agrees.bind (fun a a' ha => (hf ⟨a, a', ha⟩).agrees)
    fun _ _ hi _ hs _ _ => Pairing.starts_true_of_lt hi (hs rfl)⟩

instance (priority := 900) agree_bind {r r' : Reader α} {f f' : α → Reader β}
    [h : Agree p later s r r']
    [hf : ∀ twin : Twin p α, Agree p later t (f twin.left) (f' twin.right)] :
    Agree p later t (r >>= f) (r' >>= f') := by
  refine ⟨Agrees.bind (s := false) h.agrees.weaken (fun a a' ha => (hf ⟨a, a', ha⟩).agrees) ?_⟩
  exact fun _ _ hi hij _ _ _ => Pairing.starts_of_le hi hij

instance agree_orElse_strict {r r' q q' : Reader α} [h : Agree p later true r r']
    [hq : Agree p later true q q'] : Agree p later true (r <|> q) (r' <|> q') :=
  ⟨h.agrees.orElse hq.agrees⟩

instance (priority := 900) agree_orElse {r r' q q' : Reader α} [h : Agree p later s r r']
    [hq : Agree p later t q q'] : Agree p later false (r <|> q) (r' <|> q') :=
  ⟨h.agrees.weaken.orElse hq.agrees.weaken⟩

instance agree_nothing : Agree p later true (Reader.nothing : Reader α) Reader.nothing :=
  ⟨.nothing⟩

instance agree_refuseOn {line line' : Nat} {cause cause' : Cause} :
    Agree p later true (refuseOn line cause : Reader α) (refuseOn line' cause') := ⟨.refuseOn⟩

instance agree_refuse {cause cause' : Cause} :
    Agree p later true (refuse cause : Reader α) (refuse cause') := ⟨.refuse⟩

instance agree_optional {r r' : Reader α} [h : Agree p later s r r'] :
    Agree p later false (optional r) (optional r') := ⟨h.agrees.optional⟩

instance agree_ahead {r r' : Reader α} [h : Agree p later s r r'] :
    Agree p later false (ahead r) (ahead r') := ⟨h.agrees.ahead⟩

instance agree_notAhead {r r' : Reader α} [h : Agree p later s r r'] :
    Agree p later false (notAhead r) (notAhead r') := ⟨h.agrees.notAhead⟩

instance agree_discard {r r' : Reader γ} [Compared γ] [h : Agree p later s r r'] :
    Agree p later s (discard r) (discard r') := ⟨h.agrees.discard⟩

instance agree_ite_strict {test test' : Bool} {r r' q q' : Reader α}
    [ht : Similar p test test'] [h : Agree p later true r r'] [hq : Agree p later true q q'] :
    Agree p later true (if test then r else q) (if test' then r' else q') := by
  obtain rfl : test = test' := ht.alike
  cases test
  · exact hq
  · exact h

instance (priority := 900) agree_ite {test test' : Bool} {r r' q q' : Reader α}
    [ht : Similar p test test'] [h : Agree p later s r r'] [hq : Agree p later t q q'] :
    Agree p later false (if test then r else q) (if test' then r' else q') := by
  obtain rfl : test = test' := ht.alike
  cases test
  · exact hq.weaken
  · exact h.weaken

section

variable [hp : p.Fair]

instance agree_faults {faults faults' : List (Reader Unit)} :
    Agree p later true (Reader.faults faults : Reader α) (Reader.faults faults') := ⟨.faults⟩

instance agree_iterate {step step' : α → Reader α} {a a' : α} [ha : Similar p a a']
    [h : ∀ twin : Twin p α, Agree p later true (step twin.left) (step' twin.right)] :
    Agree p later false (iterate step a) (iterate step' a') :=
  ⟨.iterate (fun a a' ha => (h ⟨a, a', ha⟩).agrees) (fun _ _ hi hij _ _ => Pairing.starts_of_le hi hij)
    ha.alike⟩

/-! ## Places -/

instance agree_here : Agree p later false here here := by
  refine ⟨Agrees.peek_bind ?_ ?_⟩
  · exact fun i token other _ _ _ _ h => .pure (congrArg Span.start h.span)
  · exact fun token other _ h => .pure (congrArg Span.start h.span)

/-! ## Single tokens -/

instance agree_take {kind : Token.Kind} [hk : Passes kind.isOrdinary] :
    Agree p later true (take kind) (take kind) := ⟨.take hk.passes fun _ => Pairing.starts_false⟩

end

end

end Reader

/-! ## Values put together from values -/

section

variable {α β : Type} [Compared α] [Compared β] {p : Pairing}

instance similar_truth {a : Bool} : Similar p a a := ⟨rfl⟩

instance similar_string {a : String} : Similar p a a := ⟨rfl⟩

instance similar_nat {a : Nat} : Similar p a a := ⟨rfl⟩

instance similar_operator {a : BinaryOperator} : Similar p a a := ⟨rfl⟩

instance similar_nil : Similar p ([] : List α) [] := ⟨.nil⟩

instance similar_cons {a a' : α} {l l' : List α} [ha : Similar p a a'] [hl : Similar p l l'] :
    Similar p (a :: l) (a' :: l') := ⟨.cons ha.alike hl.alike⟩

instance similar_append {l l' m m' : List α} [hl : Similar p l l'] [hm : Similar p m m'] :
    Similar p (l ++ m) (l' ++ m') := ⟨List.rel_append hl.alike hm.alike⟩

instance similar_reverse {l l' : List α} [hl : Similar p l l'] :
    Similar p l.reverse l'.reverse := ⟨List.rel_reverse hl.alike⟩

instance similar_isEmpty {l l' : List α} [hl : Similar p l l'] :
    Similar p l.isEmpty l'.isEmpty := by
  have h : List.Forall₂ (Compared.alike p) l l' := hl.alike
  cases h <;> exact ⟨rfl⟩

instance similar_none : Similar p (none : Option α) none := ⟨.none⟩

instance similar_some {a a' : α} [ha : Similar p a a'] : Similar p (some a) (some a') :=
  ⟨.some ha.alike⟩

instance similar_getD {o o' : Option α} {a a' : α} [ho : Similar p o o'] [ha : Similar p a a'] :
    Similar p (o.getD a) (o'.getD a') := by
  have h : Option.Rel (Compared.alike p) o o' := ho.alike
  cases h with
  | some h => exact ⟨h⟩
  | none => exact ha

instance similar_join {o o' : Option (Option α)} [ho : Similar p o o'] :
    Similar p o.join o'.join := by
  have h : Option.Rel (Compared.alike p) o o' := ho.alike
  cases h with
  | some h => exact ⟨h⟩
  | none => exact similar_none

instance similar_isNone {o o' : Option α} [ho : Similar p o o'] :
    Similar p o.isNone o'.isNone := by
  have h : Option.Rel (Compared.alike p) o o' := ho.alike
  cases h <;> exact ⟨rfl⟩

instance similar_and {a a' b b' : Bool} [ha : Similar p a a'] [hb : Similar p b b'] :
    Similar p (a && b) (a' && b') := ⟨congrArg₂ and ha.alike hb.alike⟩

instance similar_pair {a a' : α} {b b' : β} [ha : Similar p a a'] [hb : Similar p b b'] :
    Similar p (a, b) (a', b') := ⟨ha.alike, hb.alike⟩

instance similar_fst {a a' : α × β} [h : Similar p a a'] : Similar p a.1 a'.1 := ⟨h.alike.1⟩

instance similar_snd {a a' : α × β} [h : Similar p a a'] : Similar p a.2 a'.2 := ⟨h.alike.2⟩

instance similar_map_fst {l l' : List (α × β)} [hl : Similar p l l'] :
    Similar p (l.map Prod.fst) (l'.map Prod.fst) :=
  ⟨List.rel_map (fun _ _ h => h.1) hl.alike⟩

instance similar_map_snd {l l' : List (α × β)} [hl : Similar p l l'] :
    Similar p (l.map Prod.snd) (l'.map Prod.snd) :=
  ⟨List.rel_map (fun _ _ h => h.2) hl.alike⟩

end

/-! ## Combinations that the grammar uses -/

namespace Reader

variable {α β : Type} [Compared α] [Compared β] {p : Pairing} {later s t : Bool} [hp : p.Fair]

instance agree_spanFrom {a a' : Place} [h : Similar p a a'] :
    Agree p later false (spanFrom a) (spanFrom a') := ⟨.spanFrom h.alike⟩

instance agree_spanned_strict {r r' : Reader α} [Agree p later true r r'] :
    Agree p later true (spanned r) (spanned r') := by
  unfold spanned
  infer_instance

instance agree_many {r r' : Reader α} [Agree p later true r r'] :
    Agree p later false (many r) (many r') := by
  unfold many
  infer_instance

instance agree_many1 {r r' : Reader α} [Agree p later true r r'] [Agree p true true r r'] :
    Agree p later true (many1 r) (many1 r') := by
  unfold many1
  infer_instance

instance agree_separated {q q' : Reader β} {r r' : Reader α} [Agree p later true r r']
    [Agree p true true r r'] [Agree p true true q q'] :
    Agree p later true (separated q r) (separated q' r') := by
  unfold separated
  infer_instance

instance agree_firstOf_nil : Agree p later true (firstOf ([] : List (Reader α))) (firstOf []) :=
  agree_nothing

instance agree_firstOf_cons {r r' : Reader α} {l l' : List (Reader α)}
    [h : Agree p later true r r'] [hl : Agree p later true (firstOf l) (firstOf l')] :
    Agree p later true (firstOf (r :: l)) (firstOf (r' :: l')) := ⟨h.agrees.orElse hl.agrees⟩

instance agree_unsettled {r r' : Reader α} [Agree p later true r r'] :
    Agree p later true (unsettled r) (unsettled r') := by
  unfold unsettled
  infer_instance

instance agree_committed {r r' : Reader α} {f f' : α → Reader β} [Agree p later true r r']
    [∀ twin : Twin p α, Agree p true t (f twin.left) (f' twin.right)] :
    Agree p later true (committed r f) (committed r' f') := by
  unfold committed
  infer_instance

instance agree_settle {r r' : Reader (Option α)} [Agree p later true r r'] :
    Agree p later true (settle r) (settle r') := by
  have settled (twin : Twin p (Option α)) : Agree p true false
      (match twin.left with | some value => pure value | none => Reader.nothing)
      (match twin.right with | some value => pure value | none => Reader.nothing) := by
    obtain ⟨left, right, h⟩ := twin
    cases h with
    | some h => exact agree_pure (h := ⟨h⟩)
    | none => exact agree_nothing.weaken
  unfold settle
  exact agree_bind_strict

end Reader

end AdjointSynthesis.Code

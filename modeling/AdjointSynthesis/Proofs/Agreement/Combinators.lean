import AdjointSynthesis.Proofs.Agreement.Basic

/-!
# Agreement of combined readers

Each way of putting readers together keeps agreement.  The lemmas on `Agrees` say so for any set of
positions; the instances of `Agree` put them to work.

A reader that takes a token first goes on behind the origin, where more is known to agree.  So every
combination comes in two forms, for readers that are strict and for readers that are not.
-/

namespace AdjointSynthesis.Code

namespace Reader

variable {α β : Type} [Compared α] [Compared β] {p : Pairing} {later s t : Bool}
  {at_ : Nat → Prop}

/-! ## Outcomes -/

lemma OutcomesAgree.weaken {i : Nat} {o o' : Outcome α} (h : OutcomesAgree p s i o o') :
    OutcomesAgree p false i o o' := by
  cases o <;> cases o' <;> simp only [OutcomesAgree] at h ⊢
  obtain ⟨ha, hk, hi, -, hj, hl⟩ := h
  exact ⟨ha, hk, hi, by simp, hj, hl⟩

/-- What was read on behind a first value agrees from the position of the first on. -/
lemma OutcomesAgree.trans {i j : Nat} {o o' : Outcome β} (hij : i ≤ j)
    (hs : s = true → i < j) (hl : p.level j = p.level i) (h : OutcomesAgree p t j o o') :
    OutcomesAgree p (s || t) i o o' := by
  cases o <;> cases o' <;> simp only [OutcomesAgree] at h ⊢
  obtain ⟨ha, hk, hi, ht, hj, hl'⟩ := h
  refine ⟨ha, hk, by omega, fun hst => ?_, hj, by omega⟩
  rcases Bool.or_eq_true _ _ |>.mp hst with h | h
  · have := hs h
    omega
  · have := ht h
    omega

/-! ## Readers that make sure of something -/

/-- What a reader finds has a property, wherever it reads. -/
def Ensures {α : Type} (reader : Reader α) (property : α → Prop) : Prop :=
  ∀ context position progress value behind after,
    reader context position progress = (.found value behind, after) → property value

section

variable {α β : Type} {r : Reader α} {f : α → Reader β} {P : α → Prop} {Q : β → Prop}

lemma Ensures.pure {a : α} (h : P a) : Ensures (Pure.pure a : Reader α) P := by
  intro _ _ _ _ _ _ hfound
  cases hfound
  exact h

lemma Ensures.refuse {cause : Cause} : Ensures (Reader.refuse cause : Reader α) P := by
  intro _ _ _ _ _ _ hfound
  cases hfound

lemma Ensures.bind (h : Ensures r P) (hf : ∀ a, P a → Ensures (f a) Q) : Ensures (r >>= f) Q := by
  intro context position progress value behind after hfound
  change Reader.bind r f context position progress = _ at hfound
  unfold Reader.bind at hfound
  split at hfound
  · next a j g hr => exact hf a (h _ _ _ _ _ _ hr) _ _ _ _ _ _ hfound
  · cases hfound
  · cases hfound

lemma Ensures.trivial : Ensures r fun _ => True := fun _ _ _ _ _ _ _ => True.intro

end

/-! ## Readers at any positions -/

lemma Agrees.weaken {r r' : Reader α} (h : Agrees p at_ s r r') : Agrees p at_ false r r' :=
  fun i g g' hi hstop hg => ⟨(h i g g' hi hstop hg).1, (h i g g' hi hstop hg).2.weaken⟩

lemma Agrees.mono {r r' : Reader α} {fewer : Nat → Prop} (h : Agrees p at_ s r r')
    (hf : ∀ i ≤ p.stop, fewer i → at_ i) : Agrees p fewer s r r' :=
  fun i g g' hi hstop => h i g g' (hf i hstop hi) hstop

lemma Agrees.of (later : Bool) {r r' : Reader α} [h : Agree p later s r r'] :
    Agrees p (p.starts later) s r r' := h.agrees

/-- Reading on behind what was found, with what the first reader makes sure of. -/
lemma Agrees.bind_ensures {r r' : Reader α} {f f' : α → Reader β} {b : Nat → Prop} {P : α → Prop}
    (h : Agrees p at_ s r r') (hP : Ensures r P)
    (hf : ∀ a a', Compared.alike p a a' → P a → Agrees p b t (f a) (f' a'))
    (hb : ∀ i j, at_ i → i ≤ j → (s = true → i < j) → j ≤ p.stop → p.level j = p.level i →
      b j) :
    Agrees p at_ (s || t) (r >>= f) (r' >>= f') := by
  intro i g g' hi hstop hg
  have first := h i g g' hi hstop hg
  have ensured := hP p.left i g
  show p.keeps (Reader.bind r f p.left i g).2.findings ∧
    OutcomesAgree p (s || t) i (Reader.bind r f p.left i g).1
      (Reader.bind r' f' p.right (i + p.shift) g').1
  unfold Reader.bind
  revert first ensured
  rcases r p.left i g with ⟨o, g₁⟩
  rcases r' p.right (i + p.shift) g' with ⟨o', g₁'⟩
  intro ⟨hk, ho⟩ ensured
  cases o <;> cases o' <;> simp only [OutcomesAgree] at ho <;> first
    | exact ⟨hk, trivial⟩
    | skip
  rename_i a j a' k
  obtain ⟨ha, rfl, hij, hs, hj, hl⟩ := ho
  have second := hf a a' ha (ensured a j g₁ rfl) j g₁ g₁' (hb i j hi hij hs hj hl) hj hk
  exact ⟨second.1, second.2.trans hij hs hl⟩

/-- Reading on behind what was found. -/
lemma Agrees.bind {r r' : Reader α} {f f' : α → Reader β} {b : Nat → Prop}
    (h : Agrees p at_ s r r') (hf : ∀ a a', Compared.alike p a a' → Agrees p b t (f a) (f' a'))
    (hb : ∀ i j, at_ i → i ≤ j → (s = true → i < j) → j ≤ p.stop → p.level j = p.level i →
      b j) :
    Agrees p at_ (s || t) (r >>= f) (r' >>= f') :=
  h.bind_ensures (P := fun _ => True) .trivial (fun a a' ha _ => hf a a' ha) hb

lemma Agrees.pure {a a' : α} (h : Compared.alike p a a') :
    Agrees p at_ false (Pure.pure a : Reader α) (Pure.pure a') :=
  fun _ _ _ _ hstop hg => ⟨hg, h, rfl, Nat.le_refl _, by simp, hstop, rfl⟩

lemma Agrees.orElse {r r' q q' : Reader α} (h : Agrees p at_ s r r') (hq : Agrees p at_ s q q') :
    Agrees p at_ s (r <|> q) (r' <|> q') := by
  intro i g g' hi hstop hg
  have first := h i g g' hi hstop hg
  show p.keeps (Reader.orElse r (fun _ => q) p.left i g).2.findings ∧
    OutcomesAgree p s i (Reader.orElse r (fun _ => q) p.left i g).1
      (Reader.orElse r' (fun _ => q') p.right (i + p.shift) g').1
  unfold Reader.orElse
  revert first
  rcases r p.left i g with ⟨o, g₁⟩
  rcases r' p.right (i + p.shift) g' with ⟨o', g₁'⟩
  intro ⟨hk, ho⟩
  cases o <;> cases o' <;> simp only [OutcomesAgree] at ho
  · exact ⟨hk, ho⟩
  · exact hq i g₁ g₁' hi hstop hk
  · exact ⟨hk, ho⟩

lemma Agrees.nothing : Agrees p at_ true (Reader.nothing : Reader α) Reader.nothing :=
  fun _ _ _ _ _ hg => ⟨hg, trivial⟩

lemma Agrees.refuseOn {line line' : Nat} {cause cause' : Cause} :
    Agrees p at_ true (Reader.refuseOn line cause : Reader α) (Reader.refuseOn line' cause') :=
  fun _ _ _ _ _ hg => ⟨hg, trivial⟩

lemma Agrees.refuse {cause cause' : Cause} :
    Agrees p at_ true (Reader.refuse cause : Reader α) (Reader.refuse cause') :=
  fun _ _ _ _ _ hg => ⟨hg, trivial⟩

/-- In the plain mood no faults are looked for. -/
lemma Agrees.faults [hp : p.Fair] {faults faults' : List (Reader Unit)} :
    Agrees p at_ true (Reader.faults faults : Reader α) (Reader.faults faults') := by
  intro i g g' _ _ hg
  simp only [Reader.faults, hp.leftPlain, hp.rightPlain]
  exact ⟨hg, trivial⟩

lemma Agrees.discard {r r' : Reader α} (h : Agrees p at_ s r r') :
    Agrees p at_ s (discard r) (discard r') := by
  have rest : Agrees p at_ (s || false) (r >>= fun _ => Pure.pure ()) (r' >>= fun _ => Pure.pure ()) :=
    h.bind (b := fun _ => True) (fun _ _ _ => .pure rfl) fun _ _ _ _ _ _ _ => trivial
  exact Bool.or_false s ▸ rest

lemma Agrees.optional {r r' : Reader α} (h : Agrees p at_ s r r') :
    Agrees p at_ false (Reader.optional r) (Reader.optional r') := by
  intro i g g' hi hstop hg
  have first := h i g g' hi hstop hg
  unfold Reader.optional
  revert first
  rcases r p.left i g with ⟨o, g₁⟩
  rcases r' p.right (i + p.shift) g' with ⟨o', g₁'⟩
  intro ⟨hk, ho⟩
  cases o <;> cases o' <;> simp only [OutcomesAgree] at ho
  · obtain ⟨ha, hk', hi', -, hj, hl⟩ := ho
    exact ⟨hk, .some ha, hk', hi', by simp, hj, hl⟩
  · exact ⟨hk, .none, rfl, Nat.le_refl _, by simp, hstop, rfl⟩
  · exact ⟨hk, trivial⟩

lemma Agrees.ahead {r r' : Reader α} (h : Agrees p at_ s r r') :
    Agrees p at_ false (Reader.ahead r) (Reader.ahead r') := by
  intro i g g' hi hstop hg
  have first := h i g g' hi hstop hg
  unfold Reader.ahead
  revert first
  rcases r p.left i g with ⟨o, g₁⟩
  rcases r' p.right (i + p.shift) g' with ⟨o', g₁'⟩
  intro ⟨hk, ho⟩
  cases o <;> cases o' <;> simp only [OutcomesAgree] at ho
  · exact ⟨hk, rfl, rfl, Nat.le_refl _, by simp, hstop, rfl⟩
  · exact ⟨hk, trivial⟩
  · exact ⟨hk, trivial⟩

lemma Agrees.notAhead {r r' : Reader α} (h : Agrees p at_ s r r') :
    Agrees p at_ false (Reader.notAhead r) (Reader.notAhead r') := by
  intro i g g' hi hstop hg
  have first := h i g g' hi hstop hg
  unfold Reader.notAhead
  revert first
  rcases r p.left i g with ⟨o, g₁⟩
  rcases r' p.right (i + p.shift) g' with ⟨o', g₁'⟩
  intro ⟨hk, ho⟩
  cases o <;> cases o' <;> simp only [OutcomesAgree] at ho
  · exact ⟨hk, trivial⟩
  · exact ⟨hk, rfl, rfl, Nat.le_refl _, by simp, hstop, rfl⟩
  · exact ⟨hk, trivial⟩

/-! ## Repetition -/

/-- The steps of a repetition are strict, so they end before their count does. -/
lemma agrees_iterateUpTo {step step' : α → Reader α}
    (h : ∀ a a', Compared.alike p a a' → Agrees p at_ true (step a) (step' a'))
    (hat : ∀ i j, at_ i → i ≤ j → j ≤ p.stop → p.level j = p.level i → at_ j)
    (count count' : Nat) (a a' : α) (ha : Compared.alike p a a') (i : Nat) (g g' : Progress)
    (hi : at_ i) (hstop : i ≤ p.stop) (hg : p.keeps g.findings)
    (hc : p.stop < i + count) (hc' : p.stop < i + count') :
    p.keeps (iterateUpTo step count a p.left i g).2.findings ∧
      OutcomesAgree p false i (iterateUpTo step count a p.left i g).1
        (iterateUpTo step' count' a' p.right (i + p.shift) g').1 := by
  induction count generalizing count' a a' i g g' with
  | zero => omega
  | succ count ih =>
    obtain ⟨count', rfl⟩ : ∃ n, count' = n + 1 := ⟨count' - 1, by omega⟩
    have first := h a a' ha i g g' hi hstop hg
    unfold iterateUpTo
    revert first
    rcases step a p.left i g with ⟨o, g₁⟩
    rcases step' a' p.right (i + p.shift) g' with ⟨o', g₁'⟩
    intro ⟨hk, ho⟩
    cases o <;> cases o' <;> simp only [OutcomesAgree] at ho
    · rename_i b j b' k
      obtain ⟨hb, rfl, hij, hs, hj, hl⟩ := ho
      have hlt := hs trivial
      have rest := ih count' b b' hb j g₁ g₁' (hat i j hi hij hj hl) hj hk (by omega) (by omega)
      exact ⟨rest.1, by simpa using rest.2.trans (s := false) hij (by simp) hl⟩
    · exact ⟨hk, ha, rfl, Nat.le_refl _, by simp, hstop, rfl⟩
    · exact ⟨hk, trivial⟩

lemma Agrees.iterate [hp : p.Fair] {step step' : α → Reader α}
    (h : ∀ a a', Compared.alike p a a' → Agrees p at_ true (step a) (step' a'))
    (hat : ∀ i j, at_ i → i ≤ j → j ≤ p.stop → p.level j = p.level i → at_ j)
    {a a' : α} (ha : Compared.alike p a a') :
    Agrees p at_ false (Reader.iterate step a) (Reader.iterate step' a') := by
  intro i g g' hi hstop hg
  have hleft : p.stop ≤ p.left.source.tokens.size := Pairing.Fair.stop_le_left
  have hright : p.stop ≤ p.right.source.tokens.size := Pairing.Fair.stop_le_right
  exact agrees_iterateUpTo h hat _ _ a a' ha i g g' hi hstop hg (by omega) (by omega)

/-! ## Places -/

lemma Agrees.behind [hp : p.Fair] : Agrees p at_ false Reader.behind Reader.behind :=
  fun i _ _ _ hstop hg => ⟨hg, hp.ends i hstop, rfl, Nat.le_refl _, by simp, hstop, rfl⟩

lemma Agrees.spanFrom [hp : p.Fair] {a a' : Place} (h : Compared.alike p a a') :
    Agrees p at_ false (spanFrom a) (spanFrom a') := by
  refine Agrees.bind (b := fun _ => True) (t := false) .behind ?_ fun _ _ _ _ _ _ _ => trivial
  exact fun b b' hb => .pure (congrArg₂ Span.mk h hb)

/-! ## Single tokens -/

/-- What a look at the next token gives on both sides. -/
lemma peek_cases [hp : p.Fair] {i : Nat} (hi : i ≤ p.stop) (g g' : Progress) :
    ∃ g₁ g₁' : Progress, g₁.findings = g.findings ∧
      ((∃ token other, i < p.stop ∧ p.left.source.tokens[i]? = some token ∧
          p.right.source.tokens[i + p.shift]? = some other ∧ p.Beside token other ∧
          Reader.peek p.left i g = (.found token i, g₁) ∧
          Reader.peek p.right (i + p.shift) g' = (.found other (i + p.shift), g₁')) ∨
        (∃ token other, i = p.stop ∧ p.left.source.tokens[p.stop]? = some token ∧
          p.right.source.tokens[p.stop + p.shift]? = some other ∧ p.Parting token other ∧
          Reader.peek p.left i g = (.found token i, g₁) ∧
          Reader.peek p.right (i + p.shift) g' = (.found other (i + p.shift), g₁')) ∨
        (Reader.peek p.left i g = (.nothing, g₁) ∧
          Reader.peek p.right (i + p.shift) g' = (.nothing, g₁')) ∨
        ∃ fault broken fault' broken', Reader.peek p.left i g = (.refused fault broken, g₁) ∧
          Reader.peek p.right (i + p.shift) g' = (.refused fault' broken', g₁')) := by
  refine ⟨{ g with reach := max g.reach (i + 1) },
    { g' with reach := max g'.reach (i + p.shift + 1) }, rfl, ?_⟩
  rcases Nat.lt_or_ge i p.stop with hlt | hge
  · obtain ⟨token, other, htoken, hother, h⟩ := hp.beside i hlt
    exact .inl ⟨token, other, hlt, htoken, hother, h, by simp [peek, htoken], by simp [peek, hother]⟩
  · obtain rfl : i = p.stop := by omega
    rcases hp.parting with ⟨token, other, htoken, hother, h⟩ | ⟨htoken, hother, hending⟩
    · exact .inr (.inl ⟨token, other, rfl, htoken, hother, h, by simp [peek, htoken],
        by simp [peek, hother]⟩)
    · cases hleft : p.left.source.ending <;> cases hright : p.right.source.ending <;>
        simp only [hleft, hright, reduceCtorEq, iff_true, iff_false, not_true_eq_false] at hending
      · exact .inr (.inr (.inl ⟨by simp [peek, htoken, hleft], by simp [peek, hother, hright]⟩))
      · exact .inr (.inr (.inr ⟨_, _, _, _, by simp only [peek, htoken, hleft]; rfl,
          by simp only [peek, hother, hright]; rfl⟩))

/-- A reader that goes on with a look at the next token. -/
lemma Agrees.peek_bind_at [hp : p.Fair] {f f' : Token → Reader α}
    (hbeside : ∀ i token other, at_ i → i < p.stop → p.left.source.tokens[i]? = some token →
      p.right.source.tokens[i + p.shift]? = some other → p.Beside token other →
      Agrees p (· = i) s (f token) (f' other))
    (hparting : ∀ token other, at_ p.stop → p.left.source.tokens[p.stop]? = some token →
      p.right.source.tokens[p.stop + p.shift]? = some other → p.Parting token other →
      Agrees p (· = p.stop) s (f token) (f' other)) :
    Agrees p at_ s (Reader.peek >>= f) (Reader.peek >>= f') := by
  intro i g g' hi hstop hg
  show p.keeps (Reader.bind Reader.peek f p.left i g).2.findings ∧
    OutcomesAgree p s i (Reader.bind Reader.peek f p.left i g).1
      (Reader.bind Reader.peek f' p.right (i + p.shift) g').1
  unfold Reader.bind
  obtain ⟨g₁, g₁', hg₁, h⟩ := peek_cases hstop g g'
  rw [← hg₁] at hg
  rcases h with ⟨token, other, hlt, htoken, hother, hb, h, h'⟩ |
    ⟨token, other, rfl, htoken, hother, hpart, h, h'⟩ | ⟨h, h'⟩ | ⟨_, _, _, _, h, h'⟩
  · simp only [h, h']
    exact hbeside i token other hi hlt htoken hother hb i g₁ g₁' rfl hstop hg
  · simp only [h, h']
    exact hparting token other hi htoken hother hpart p.stop g₁ g₁' rfl hstop hg
  · simp only [h, h']
    exact ⟨hg, trivial⟩
  · simp only [h, h']
    exact ⟨hg, trivial⟩

/-- What is asked of the tokens at the stop is mostly asked of both sides alone. -/
lemma Agrees.peek_bind [hp : p.Fair] {f f' : Token → Reader α}
    (hbeside : ∀ i token other, at_ i → i < p.stop → p.left.source.tokens[i]? = some token →
      p.right.source.tokens[i + p.shift]? = some other → p.Beside token other →
      Agrees p (· = i) s (f token) (f' other))
    (hparting : ∀ token other, at_ p.stop → p.Parting token other →
      Agrees p (· = p.stop) s (f token) (f' other)) :
    Agrees p at_ s (Reader.peek >>= f) (Reader.peek >>= f') :=
  .peek_bind_at hbeside fun token other h _ _ => hparting token other h

/-- Taking a token. -/
lemma Agrees.skip {i : Nat} {token : Token} (hlt : i < p.stop)
    (htoken : p.left.source.tokens[i]? = some token) (hk : token.kind.isOrdinary = true)
    {a a' : α} (h : Compared.alike p a a') :
    Agrees p (· = i) true (do Reader.skip; return a) (do Reader.skip; return a') := by
  rintro _ g g' rfl _ hg
  exact ⟨hg, h, by omega, by omega, by omega, by omega, Pairing.level_succ_of_isOrdinary htoken hk⟩

/-- An ordinary token is never one at the stop. -/
lemma Agrees.take [hp : p.Fair] {kind : Token.Kind} (hk : kind.isOrdinary = true)
    (hat : ∀ i, at_ i → p.starts false i) :
    Agrees p at_ true (Reader.take kind) (Reader.take kind) := by
  refine Agrees.peek_bind ?_ ?_
  · intro i token other hi hlt htoken hother h
    by_cases hkind : token.kind = kind
    · rw [if_pos hkind, if_pos (h.kind ▸ hkind)]
      exact .skip hlt htoken (hkind ▸ hk) ⟨h, i, hlt, hat i hi, htoken, hother⟩
    · rw [if_neg hkind, if_neg (h.kind ▸ hkind)]
      exact .nothing
  · intro token other _ h
    rw [if_neg (h.left_ne hk), if_neg (h.right_ne hk)]
    exact .nothing

end Reader

end AdjointSynthesis.Code

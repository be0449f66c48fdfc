import AdjointSynthesis.Proofs.Reading.Spans
import AdjointSynthesis.Proofs.Scanning.EmptyLine

/-!
# Reading tokens that are alike

Two texts whose tokens are the same, up to how the places of layout tokens are seen, are the same
program up to how places are seen.

* `TokenSequence.IsLike`: two token sequences that are alike in a view.
* `read_of_isLike`: they are read alike.
-/

namespace AdjointSynthesis.Code

open Reader

/-- Two whole token sequences are alike in a view. -/
structure TokenSequence.IsLike (v : View) (source other : TokenSequence) : Prop where
  tokens : List.Forall₂ (Token.IsLike v) source.tokens.toList other.tokens.toList
  left : source.ending = .finished
  right : other.ending = .finished

/-- Two token sequences side by side in a view. -/
def sideBySide (v : View) (source other : TokenSequence) : Pairing where
  left := ⟨source, false, false⟩
  right := ⟨other, false, false⟩
  leftView := v
  rightView := v
  shift := 0
  stop := source.tokens.size
  origin := 0
  keeps := fun _ => True

namespace TokenSequence.IsLike

variable {v : View} {source other : TokenSequence}

/-- What is alike in a view is alike without places. -/
lemma bare (h : source.IsLike v other) : source.IsLike .bare other where
  tokens := h.tokens.imp fun _ _ => Or.imp_right fun hlike =>
    ⟨hlike.1, hlike.2.1, hlike.2.2.1, rfl⟩
  left := h.left
  right := h.right

lemma symm (h : source.IsLike v other) : other.IsLike v source where
  tokens := h.tokens.flip.imp fun _ _ => Token.IsLike.symm
  left := h.right
  right := h.left

lemma size_eq (h : source.IsLike v other) : source.tokens.size = other.tokens.size := by
  have := h.tokens.length_eq
  rwa [Array.length_toList, Array.length_toList] at this

lemma exists_getElem? (h : source.IsLike v other) {i : Nat} (hi : i < source.tokens.size) :
    ∃ token token', source.tokens[i]? = some token ∧ other.tokens[i]? = some token' ∧
      token.IsLike v token' := by
  have hi' : i < other.tokens.size := h.size_eq ▸ hi
  exact ⟨_, _, Array.getElem?_eq_getElem hi, Array.getElem?_eq_getElem hi', h.tokens.get hi hi'⟩

/-- The same word comes before each position. -/
lemma wordEnd_eq (h : source.IsLike v other) (i : Nat) :
    v.place (wordEnd source.tokens i) = v.place (wordEnd other.tokens i) := by
  induction i with
  | zero => rfl
  | succ i ih =>
    rw [wordEnd, wordEnd]
    by_cases hi : i < source.tokens.size
    · obtain ⟨token, token', htoken, htoken', hlike⟩ := h.exists_getElem? hi
      rw [htoken, htoken']
      dsimp only
      rcases hlike with rfl | ⟨hkind, -, -, hspan⟩
      · split
        · exact ih
        · rfl
      · have hlayout : token.isLayout = token'.isLayout := by simp [Token.isLayout, hkind]
        rw [hlayout]
        split
        · exact ih
        · exact congrArg Span.stop hspan
    · have hi' : ¬i < other.tokens.size := h.size_eq ▸ hi
      rw [Array.getElem?_eq_none (by omega), Array.getElem?_eq_none (by omega)]
      exact ih

lemma isWhole (h : source.IsLike v other) : (sideBySide v source other).IsWhole :=
  ⟨Array.getElem?_eq_none (Nat.le_refl _), Array.getElem?_eq_none (Nat.le_of_eq h.size_eq.symm)⟩

lemma fair (h : source.IsLike v other) : (sideBySide v source other).Fair where
  leftPlain := rfl
  rightPlain := rfl
  beside i hi := by
    obtain ⟨token, token', htoken, htoken', hlike⟩ := h.exists_getElem? hi
    refine ⟨token, token', htoken, htoken', ?_⟩
    rcases hlike with rfl | ⟨hkind, hwritten, hwritten', hspan⟩
    · exact ⟨rfl, rfl, rfl⟩
    · exact ⟨hkind, hwritten.trans hwritten'.symm, hspan⟩
  parting := .inr ⟨h.isWhole.left, h.isWhole.right, by
    simp only [sideBySide, h.left, h.right]⟩
  names _ _ _ _ _ := rfl
  ends i _ := h.wordEnd_eq i

/-- Fields are read alike, since they stand in tokens that are the same. -/
lemma ready (h : source.IsLike v other) (steps : Nat) :
    Ready (sideBySide v source other) (Grammar.forgetful steps) (Grammar.forgetful steps) := by
  have hfair := h.fair
  refine Grammar.ready_forgetful_of_field
    (fun sub token token' before behindBrace expression hmatched hlen => ?_) steps
  obtain ⟨i, hi, -, htoken, htoken'⟩ := hmatched.position
  obtain ⟨_, _, hleft, hright, hlike⟩ := h.exists_getElem? hi
  obtain rfl := Option.some.inj (htoken.symm.trans hleft)
  obtain rfl := Option.some.inj (htoken'.symm.trans hright)
  rcases hlike with rfl | ⟨-, hwritten, -⟩
  · generalize readAll (Grammar.starExpressions sub) _ true = result
    cases result with
    | error fault => trivial
    | ok value => exact rfl
  · -- nothing is written in a layout token, and a field has an expression
    rw [hwritten] at hlen
    exact absurd hlen (Nat.not_succ_le_zero _)

end TokenSequence.IsLike

section
variable {α : Type} {r r' : Reader α} {v : View} {source other : TokenSequence}

/-- What is read from a whole text is read from another one when the readers agree from the start
on. -/
lemma exists_of_agrees [Compared α] {strict : Bool} {value : α}
    (h : Agrees (sideBySide v source other) ((sideBySide v source other).starts true) strict r r')
    (hread : readAll r source false = .ok value) : ∃ value', readAll r' other false = .ok value' ∧
      Compared.alike (sideBySide v source other) value value' := by
  have hagree := resultsAgree_of_agrees rfl rfl rfl rfl trivial h
  rw [hread] at hagree
  cases hother : readAll r' other false with
  | error fault =>
    rw [hother] at hagree
    exact hagree.elim
  | ok value' =>
    rw [hother] at hagree
    exact ⟨value', rfl, hagree⟩

end

/-- A text is read to its end. -/
lemma finished_of_read {text : List Char} {statements : List Stmt}
    (h : read text = .ok statements) : (TokenSequence.ofText text).ending = .finished := by
  have hfinish : Triple ⟨.ofText text, false, false⟩ (fun _ => True)
      (Grammar.program (Grammar.forgetful (Grammar.stepsFor text)))
      fun _ _ => ∃ token ∈ (TokenSequence.ofText text).tokens, token.kind = .finish := by
    refine .behind fun found => ?_
    rw [discard_bind]
    refine Triple.take.bind fun token => .pure ?_
    rintro _ ⟨i, -, -, htoken, hkind⟩
    exact ⟨token, Array.mem_of_getElem? htoken, hkind⟩
  have hread := (read_eq_ok_iff (Nat.le_refl _) statements).mp h
  obtain ⟨token, hmem, hkind⟩ := hfinish.of_readAll trivial hread
  obtain ⟨htokens, hending⟩ := Scanner.ofLines_eq 1 text
  rw [← Array.mem_toList_iff] at hmem
  rw [TokenSequence.ofText, htokens, List.mem_reverse] at hmem
  rw [TokenSequence.ofText, hending]
  exact Scanner.finished_of_mem_run hmem hkind

/-- **Texts of tokens that are alike are the same program up to how places are seen.** -/
theorem read_of_isLike {v : View} {text text' : List Char} {statements : List Stmt}
    (h : (TokenSequence.ofText text).IsLike v (.ofText text'))
    (hread : read text = .ok statements) : ∃ statements', read text' = .ok statements' ∧
      statements.map (Stmt.seen v) = statements'.map (Stmt.seen v) := by
  let p := sideBySide v (.ofText text) (.ofText text')
  -- with enough steps for both, the two are read by the grammar without memory
  let steps := max (Grammar.stepsFor text) (Grammar.stepsFor text')
  have hfair : p.Fair := h.fair
  have hready : Ready p (Grammar.forgetful steps) (Grammar.forgetful steps) := h.ready steps
  have program : Agrees p (p.starts true) true (Grammar.program (Grammar.forgetful steps))
      (Grammar.program (Grammar.forgetful steps)) := agrees_program h.isWhole
  obtain ⟨statements', hother, halike⟩ :=
    exists_of_agrees program ((read_eq_ok_iff (Nat.le_max_left _ _) statements).mp hread)
  exact ⟨statements', (read_eq_ok_iff (Nat.le_max_right _ _) statements').mpr hother,
    map_eq_map_of_forall₂ halike⟩

end AdjointSynthesis.Code

import AdjointSynthesis.Proofs.Agreement.Trees

/-!
# Agreement of terminals

The readers of single tokens agree in every fair pairing, and so do the ways in which the grammar
puts readers in a row.
-/

namespace AdjointSynthesis.Code

namespace Reader

/-- Readers form a monad: reading on does not depend on how it is bracketed. -/
instance lawful : LawfulMonad Reader := by
  refine LawfulMonad.mk' Reader ?_ ?_ ?_
  · intro α reader
    funext context position progress
    show Reader.bind reader (fun a => Reader.pure (id a)) context position progress = _
    unfold Reader.bind
    split <;> simp_all [Reader.pure]
  · intro α β value reader
    rfl
  · intro α β γ reader f g
    funext context position progress
    show Reader.bind (Reader.bind reader f) g context position progress =
      Reader.bind reader (fun a => Reader.bind (f a) g) context position progress
    unfold Reader.bind
    rcases reader context position progress with ⟨outcome, progress⟩
    cases outcome <;> rfl

lemma discard_bind {α β : Type} (r : Reader α) (f : Unit → Reader β) :
    (discard r >>= f) = r >>= fun _ => f () := by
  show ((r >>= fun _ => pure ()) >>= f) = _
  rw [bind_assoc]
  rfl

section

variable {α : Type} [Compared α] {p : Pairing} {s : Bool} {at_ : Nat → Prop} [hp : p.Fair]

omit hp in
/-- Taking a token that does not change the level, and reading on. -/
lemma Agrees.skip_bind {i : Nat} (hlt : i < p.stop) (hl : p.level (i + 1) = p.level i)
    {r r' : Reader α} (h : Agrees p (· = i + 1) s r r') :
    Agrees p (· = i) true (do Reader.skip; r) (do Reader.skip; r') := by
  rintro _ g g' rfl _ hg
  have rest := h (_ + 1) g g' rfl hlt hg
  rw [Nat.add_right_comm] at rest
  exact ⟨rest.1, rest.2.trans (s := true) (by omega) (by omega) hl⟩

/-- Reading on behind a token of an ordinary kind, where more is known of the position. -/
lemma Agrees.take_bind {kind : Token.Kind} (hk : kind.isOrdinary = true)
    {f f' : Token → Reader α}
    (h : ∀ i token other, at_ i → i < p.stop → p.left.source.tokens[i]? = some token →
      token.kind = kind → p.Beside token other → Agrees p (· = i + 1) s (f token) (f' other)) :
    Agrees p at_ true (Reader.take kind >>= f) (Reader.take kind >>= f') := by
  simp only [Reader.take, bind_assoc]
  refine .peek_bind ?_ ?_
  · intro i token other hi hlt htoken _ hb
    by_cases hkind : token.kind = kind
    · rw [if_pos hkind, if_pos (hb.kind ▸ hkind)]
      simp only [bind_assoc, pure_bind]
      exact .skip_bind hlt (Pairing.level_succ_of_isOrdinary htoken (hkind ▸ hk))
        (h i token other hi hlt htoken hkind hb)
    · rw [if_neg hkind, if_neg (hb.kind ▸ hkind)]
      exact .nothing
  · intro token other _ hpart
    rw [if_neg (hpart.left_ne hk), if_neg (hpart.right_ne hk)]
    exact .nothing

/-- One or more values in a row agree where it stays the same behind each of them. -/
lemma Agrees.many1 {r r' : Reader α} (h : Agrees p at_ true r r')
    (hat : ∀ i j, at_ i → i ≤ j → j ≤ p.stop → p.level j = p.level i → at_ j) :
    Agrees p at_ true (Reader.many1 r) (Reader.many1 r') := by
  have step (values values' : List α) (hv : Compared.alike p values values') :
      Agrees p at_ true (do return (← r) :: values) (do return (← r') :: values') := by
    refine h.bind (b := at_) (t := false) (fun a a' ha => .pure (.cons ha hv)) ?_
    exact fun i j hi hij _ hj hl => hat i j hi hij hj hl
  have rest : Agrees p at_ false (Reader.many r) (Reader.many r') := by
    refine Agrees.bind (s := false) (b := at_) (t := false) (.iterate step hat .nil) ?_ ?_
    · exact fun values values' hv => .pure (List.rel_reverse hv)
    · exact fun i j hi hij _ hj hl => hat i j hi hij hj hl
  refine h.bind (b := at_) (t := false) (fun a a' ha => ?_) ?_
  · refine rest.bind (b := at_) (t := false) (fun l l' hl => .pure (.cons ha hl)) ?_
    exact fun i j hi hij _ hj hl => hat i j hi hij hj hl
  · exact fun i j hi hij _ hj hl => hat i j hi hij hj hl

/-- A statement agrees wherever its form does, also where only some positions are known to. -/
lemma Agrees.statement {r r' : Reader StmtForm} (h : Agrees p at_ s r r') :
    Agrees p at_ s (statement r) (statement r') := by
  have rest {start start' : Place} (hs : Compared.alike p start start') (i : Nat) (hi : at_ i) :
      Agrees p (· = i) s
        (do let form ← r; return Stmt.mk (← Reader.spanFrom start) form)
        (do let form ← r'; return Stmt.mk (← Reader.spanFrom start') form) := by
    have all : Agrees p at_ (s || false)
        (do let form ← r; return Stmt.mk (← Reader.spanFrom start) form)
        (do let form ← r'; return Stmt.mk (← Reader.spanFrom start') form) := by
      refine h.bind (b := fun _ => True) (fun form form' hform => ?_) fun _ _ _ _ _ _ _ => trivial
      refine Agrees.bind (b := fun _ => True) (t := false) (.spanFrom hs) ?_
        fun _ _ _ _ _ _ _ => trivial
      exact fun span span' hspan => .pure (congrArg₂ Stmt.mk hspan hform)
    rw [Bool.or_false] at all
    exact all.mono fun _ _ hj => hj ▸ hi
  simp only [Reader.statement, spanned, here, bind_assoc, pure_bind]
  refine .peek_bind ?_ ?_
  · exact fun i token other hi _ _ _ hb => rest (congrArg Span.start hb.span) i hi
  · exact fun token other hi hpart => rest (congrArg Span.start hpart.span) _ hi

end

end Reader

namespace Grammar

open Reader

variable {α : Type} [Compared α] {p : Pairing} {later s : Bool} [hp : p.Fair]

instance agree_mark {sign : Mark} : Agree p later true (mark sign) (mark sign) := by
  unfold mark
  infer_instance

instance agree_word {keyword : Keyword} [Passes (Token.Kind.keyword keyword).isOrdinary] :
    Agree p later true (word keyword) (word keyword) := by
  unfold word
  infer_instance

instance agree_nameToken : Agree p later true nameToken nameToken := by
  unfold nameToken
  infer_instance

instance agree_lineEnd : Agree p later true lineEnd lineEnd := by
  unfold lineEnd
  infer_instance

instance similar_written {token other : Token} [h : Similar p token other] :
    Similar p (String.ofList (Text.normalForm token.written))
      (String.ofList (Text.normalForm other.written)) :=
  ⟨congrArg (fun word => String.ofList (Text.normalForm word)) h.alike.written⟩

instance agree_identifier : Agree p later true identifier identifier := by
  unfold identifier
  infer_instance

/-- A token is asked for the way it is written, which is the same on both sides. -/
lemma agree_asked (test : List Char → Prop) [DecidablePred test] :
    Agree p later true
      (do let token ← nameToken; if test token.written then return token else nothing)
      (do let token ← nameToken; if test token.written then return token else nothing) := by
  have asked (twin : Twin p Token) : Agree p true false
      (if test twin.left.written then pure twin.left else Reader.nothing)
      (if test twin.right.written then pure twin.right else Reader.nothing) := by
    rw [← twin.alike.written]
    split
    · exact agree_pure
    · exact agree_nothing.weaken
  exact agree_bind_strict

instance agree_softWord {written : List Char} :
    Agree p later true (softWord written) (softWord written) := agree_asked (· = written)

/-- A name as an expression: here it counts how the views see names. -/
instance agree_nameExpression : Agree p later true nameExpression nameExpression := by
  have form : Agree p later true (do return Form.name (← identifier))
      (do return Form.name (← identifier)) := by
    simp only [identifier, nameToken, take, bind_assoc, pure_bind]
    refine ⟨Agrees.peek_bind ?_ ?_⟩
    · intro i token other _ hlt htoken hother h
      by_cases hkind : token.kind = .name
      · rw [if_pos hkind, if_pos (h.kind ▸ hkind), bind_assoc, bind_assoc]
        refine .skip hlt htoken (hkind ▸ rfl) (congrArg Form.name ?_)
        rw [← h.written]
        exact hp.names i token hlt htoken hkind
      · rw [if_neg hkind, if_neg (h.kind ▸ hkind)]
        exact .nothing
    · intro token other _ h
      rw [if_neg (h.left_ne rfl), if_neg (h.right_ne rfl)]
      exact .nothing
  unfold nameExpression expression
  infer_instance

instance agree_required {sign : Mark} {shown : String} :
    Agree p later true (required sign shown) (required sign shown) := by
  unfold required
  refine ⟨Agrees.peek_bind ?_ ?_⟩
  · intro i token other hi hlt htoken hother h
    by_cases hkind : token.kind = .mark sign
    · rw [if_pos hkind, if_pos (h.kind ▸ hkind)]
      exact .skip hlt htoken (hkind ▸ rfl) ⟨h, i, hlt, Pairing.starts_false hi, htoken, hother⟩
    · rw [if_neg hkind, if_neg (h.kind ▸ hkind)]
      exact .refuseOn
  · intro token other _ h
    rw [if_neg (h.left_ne rfl), if_neg (h.right_ne rfl)]
    exact .refuseOn

instance agree_refuseExpr {e e' : Expr} {cause cause' : Cause} :
    Agree p later true (refuseExpr e cause : Reader α) (refuseExpr e' cause') := by
  unfold refuseExpr
  infer_instance

instance agree_refuseToken {token other : Token} {cause cause' : Cause} :
    Agree p later true (refuseToken token cause : Reader α) (refuseToken other cause') := by
  unfold refuseToken
  infer_instance

/-! ## Rows of readers -/

instance agree_operatorMark {sign : Mark} {operator : BinaryOperator} :
    Agree p later true (operatorMark sign operator) (operatorMark sign operator) := by
  unfold operatorMark
  infer_instance

instance agree_leftGrouped {operand operand' : Reader Expr} {operator operator' : Reader BinaryOperator}
    [Agree p later true operand operand'] [Agree p true true operand operand']
    [Agree p true true operator operator'] :
    Agree p later true (leftGrouped operand operator) (leftGrouped operand' operator') := by
  unfold leftGrouped
  infer_instance

instance agree_commaSeparated {r r' : Reader α} [Agree p later true r r'] [Agree p true true r r'] :
    Agree p later true (commaSeparated r) (commaSeparated r') := by
  unfold commaSeparated
  infer_instance

instance agree_tupled {r r' : Reader Expr} [Agree p later true r r'] [Agree p true true r r'] :
    Agree p later true (tupled r) (tupled r') := by
  unfold tupled
  infer_instance

end Grammar

end AdjointSynthesis.Code

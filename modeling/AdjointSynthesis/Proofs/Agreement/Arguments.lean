import AdjointSynthesis.Proofs.Agreement.Rules

/-!
# Agreement of lists, comprehensions and arguments
-/

namespace AdjointSynthesis.Code.Grammar

open Reader

variable {p : Pairing} {later : Bool} [hp : p.Fair] {sub sub' : Grammar} [Ready p sub sub']

/-! ## Expressions in a row -/

instance agree_starExpressions
    [Agree p later true (sub .starExpression) (sub' .starExpression)] :
    Agree p later true (starExpressions sub) (starExpressions sub') := by
  unfold starExpressions
  infer_instance

instance agree_assignmentExpression :
    Agree p later true (assignmentExpression sub) (assignmentExpression sub') := by
  unfold assignmentExpression
  infer_instance

section

variable [Agree p later true (sub .expression) (sub' .expression)]

instance agree_unboundExpression :
    Agree p later true (unboundExpression sub) (unboundExpression sub') := by
  unfold unboundExpression
  infer_instance

instance agree_namedExpression :
    Agree p later true (namedExpression sub) (namedExpression sub') := by
  unfold namedExpression
  infer_instance

instance agree_starNamedExpression :
    Agree p later true (starNamedExpression sub) (starNamedExpression sub') := by
  unfold starNamedExpression
  infer_instance

instance agree_starNamedExpressions :
    Agree p later true (starNamedExpressions sub) (starNamedExpressions sub') := by
  unfold starNamedExpressions
  infer_instance

end

instance agree_yieldExpression :
    Agree p later true (yieldExpression sub) (yieldExpression sub') := by
  unfold yieldExpression
  infer_instance

instance agree_yieldOrExpressions
    [Agree p later true (sub .starExpression) (sub' .starExpression)] :
    Agree p later true (yieldOrExpressions sub) (yieldOrExpressions sub') := by
  unfold yieldOrExpressions
  infer_instance

/-! ## Comprehensions -/

instance agree_starTargets [Agree p later true (sub .starTarget) (sub' .starTarget)] :
    Agree p later true (starTargets sub) (starTargets sub') := by
  unfold starTargets
  infer_instance

instance agree_clauseHead {isAsync : Bool} :
    Agree p later true (clauseHead sub isAsync) (clauseHead sub' isAsync) := by
  unfold clauseHead
  cases isAsync <;> dsimp only <;> infer_instance

instance agree_clauseTail {head head' : Bool × Expr} [Similar p head head']
    [Agree p later true (sub .disjunction) (sub' .disjunction)] :
    Agree p later true (clauseTail sub head) (clauseTail sub' head') := by
  unfold clauseTail
  infer_instance

instance agree_clause : Agree p later true (clause sub) (clause sub') := by
  unfold clause
  infer_instance

instance agree_clauses : Agree p later true (clauses sub) (clauses sub') := by
  unfold clauses
  infer_instance

/-! ## Arguments of calls -/

instance agree_starredArgument :
    Agree p later true (starredArgument sub) (starredArgument sub') := by
  unfold starredArgument
  infer_instance

instance agree_keywordArgument :
    Agree p later true (keywordArgument sub) (keywordArgument sub') := by
  have argument (twin : Twin p (Span × String × Expr)) : Agree p true false
      (match twin.left with
        | (span, name, value) => (pure (KeywordArgument.mk span (some name) value) : Reader _))
      (match twin.right with
        | (span, name, value) => pure (KeywordArgument.mk span (some name) value)) := by
    obtain ⟨⟨_, name, _⟩, ⟨_, name', _⟩, hspan, hname, hvalue⟩ := twin
    obtain rfl : name = name' := hname
    exact agree_pure (h := ⟨congrArg₂ (KeywordArgument.mk · (some name) ·) hspan hvalue⟩)
  unfold keywordArgument
  exact agree_bind_strict

instance agree_spreadArgument :
    Agree p later true (spreadArgument sub) (spreadArgument sub') := by
  have argument (twin : Twin p (Span × Expr)) : Agree p true false
      (match twin.left with
        | (span, value) => (pure (KeywordArgument.mk span none value) : Reader _))
      (match twin.right with | (span, value) => pure (KeywordArgument.mk span none value)) := by
    obtain ⟨⟨_, _⟩, ⟨_, _⟩, hspan, hvalue⟩ := twin
    exact agree_pure (h := ⟨congrArg₂ (KeywordArgument.mk · none ·) hspan hvalue⟩)
  unfold spreadArgument
  exact agree_bind_strict

/-- Two late arguments that are alike. -/
inductive LateArgument.Alike (p : Pairing) : LateArgument → LateArgument → Prop where
  | positional {a b : Expr} : Compared.alike p a b → Alike p (.positional a) (.positional b)
  | keyword {a b : KeywordArgument} : Compared.alike p a b → Alike p (.keyword a) (.keyword b)

instance comparedLate : Compared LateArgument := ⟨LateArgument.Alike⟩

instance similar_latePositional {e e' : Expr} [h : Similar p e e'] :
    Similar p (LateArgument.positional e) (.positional e') := ⟨.positional h.alike⟩

instance similar_lateKeyword {a a' : KeywordArgument} [h : Similar p a a'] :
    Similar p (LateArgument.keyword a) (.keyword a') := ⟨.keyword h.alike⟩

instance agree_keywordOrStarred :
    Agree p later true (keywordOrStarred sub) (keywordOrStarred sub') := by
  unfold keywordOrStarred
  infer_instance

instance agree_keywordOrSpread :
    Agree p later true (keywordOrSpread sub) (keywordOrSpread sub') := by
  unfold keywordOrSpread
  infer_instance

instance agree_lateArguments :
    Agree p later true (lateArguments sub) (lateArguments sub') := by
  unfold lateArguments
  infer_instance

instance similar_collect {line line' : Nat} {l l' : List Expr} {m m' : List LateArgument}
    [hl : Similar p l l'] [hm : Similar p m m'] :
    Similar p (collect line l m) (collect line' l' m') := by
  have h : List.Forall₂ (LateArgument.Alike p) m m' := hm.alike
  clear hm
  refine ⟨List.rel_append hl.alike ?_, ?_⟩
  · induction h with
    | nil => exact .nil
    | cons h _ ih =>
      cases h with
      | positional h => exact .cons h ih
      | keyword h => exact ih
  · induction h with
    | nil => exact .nil
    | cons h _ ih =>
      cases h with
      | positional h => exact ih
      | keyword h => exact .cons h ih

section

variable [Agree p later true (sub .expression) (sub' .expression)]

instance agree_positionalArgument :
    Agree p later true (positionalArgument sub) (positionalArgument sub') := by
  unfold positionalArgument
  infer_instance

instance agree_argumentList : Agree p later true (argumentList sub) (argumentList sub') := by
  unfold argumentList
  infer_instance

instance agree_argumentsRule : Agree p later true (argumentsRule sub) (argumentsRule sub') := by
  unfold argumentsRule
  infer_instance

end

end AdjointSynthesis.Code.Grammar

import AdjointSynthesis.Code.Grammar.SimpleStatements
import AdjointSynthesis.Proofs.Agreement.Targets

/-!
# Agreement of statements on one line

A return may be the first thing behind the stop on one side only.  So readers that begin with any
statement agree at quiet positions: before the stop, or where no return stands at the stop.
-/

set_option synthInstance.maxSize 1000

namespace AdjointSynthesis.Code.Grammar

open Reader

variable {α : Type} [Compared α] {p : Pairing} {later s : Bool} [hp : p.Fair]
  {sub sub' : Grammar} [Ready p sub sub']

/-! ## Assignments and deletions -/

omit hp in
/-- The operator of an augmented assignment is the same on both sides. -/
lemma agree_augmentationAt (i : Nat) (token other : Token) (hlt : i < p.stop)
    (htoken : p.left.source.tokens[i]? = some token) (h : p.Beside token other) :
    Agrees p (· = i) true
      (match token.kind with
        | .mark (.augmented operator) => do skip; return operator
        | _ => Reader.nothing)
      (match other.kind with
        | .mark (.augmented operator) => do skip; return operator
        | _ => Reader.nothing) := by
  rw [← h.kind]
  split
  · next operator hkind => exact .skip hlt htoken (hkind ▸ rfl) rfl
  · exact .nothing

instance agree_augmentation : Agree p later true augmentation augmentation := by
  unfold augmentation
  refine ⟨Agrees.peek_bind ?_ ?_⟩
  · exact fun i token other _ hlt htoken _ h => agree_augmentationAt i token other hlt htoken h
  · intro token other _ h
    split
    · next operator hkind => exact absurd hkind (h.left_ne rfl)
    · split
      · next operator hkind => exact absurd hkind (h.right_ne rfl)
      · exact .nothing

instance agree_annotationOf {e e' : Expr} {simple : Bool} [Similar p e e'] :
    Agree p later true (annotationOf sub e simple) (annotationOf sub' e' simple) := by
  unfold annotationOf
  infer_instance

instance agree_assignedTarget [Agree p later true (sub .starTarget) (sub' .starTarget)] :
    Agree p later true (assignedTarget sub) (assignedTarget sub') := by
  unfold assignedTarget
  infer_instance

instance agree_assignment [Agree p later true (sub .targetPrimary) (sub' .targetPrimary)]
    [Agree p later true (sub .starTarget) (sub' .starTarget)]
    [Agree p later true (sub .singleTarget) (sub' .singleTarget)] :
    Agree p later true (assignment sub) (assignment sub') := by
  have augmented (twin : Twin p (Expr × BinaryOperator)) : Agree p true true
      (match twin.left with
        | (target, operator) => do return .augment target operator (← yieldOrExpressions sub))
      (match twin.right with
        | (target, operator) => do
          return StmtForm.augment target operator (← yieldOrExpressions sub')) := by
    obtain ⟨⟨target, operator⟩, ⟨target', operator'⟩, htarget, hoperator⟩ := twin
    have : Similar p target target' := ⟨htarget⟩
    have : Similar p operator operator' := ⟨hoperator⟩
    infer_instance
  unfold assignment
  infer_instance

instance agree_deletion : Agree p later true (deletion sub) (deletion sub') := by
  unfold deletion
  infer_instance

/-! ## Imports -/

instance similar_intercalate {l l' : List String} [h : Similar p l l'] :
    Similar p (".".intercalate l) (".".intercalate l') :=
  ⟨congrArg (".".intercalate ·) (eq_of_similar_list h.alike)⟩

instance similar_points {l l' : List Nat} [h : Similar p l l'] :
    Similar p (l.foldl (· + ·) 0) (l'.foldl (· + ·) 0) :=
  ⟨congrArg (List.foldl (· + ·) 0) (eq_of_similar_list h.alike)⟩

instance agree_aliasName : Agree p later false aliasName aliasName := by
  unfold aliasName
  infer_instance

instance agree_dottedName : Agree p later true dottedName dottedName := by
  unfold dottedName
  infer_instance

instance agree_importStatement : Agree p later true importStatement importStatement := by
  unfold importStatement
  infer_instance

instance agree_leadingPoint : Agree p later true leadingPoint leadingPoint := by
  unfold leadingPoint
  infer_instance

instance agree_importedNames : Agree p later true importedNames importedNames := by
  unfold importedNames
  infer_instance

instance agree_importTargets : Agree p later true importTargets importTargets := by
  unfold importTargets
  infer_instance

instance agree_importFromStatement :
    Agree p later true importFromStatement importFromStatement := by
  unfold importFromStatement
  infer_instance

/-! ## Other statements -/

instance agree_raiseStatement : Agree p later true (raiseStatement sub) (raiseStatement sub') := by
  unfold raiseStatement
  infer_instance

instance agree_assertStatement :
    Agree p later true (assertStatement sub) (assertStatement sub') := by
  unfold assertStatement
  infer_instance

instance agree_declaredNames {keyword : Keyword}
    [Passes (Token.Kind.keyword keyword).isOrdinary] :
    Agree p later true (declaredNames keyword) (declaredNames keyword) := by
  unfold declaredNames
  infer_instance

instance agree_wordStatement {keyword : Keyword} {form form' : StmtForm}
    [Passes (Token.Kind.keyword keyword).isOrdinary] [Similar p form form'] :
    Agree p later true (wordStatement keyword form) (wordStatement keyword form') := by
  unfold wordStatement
  infer_instance

/-! ## Statements at quiet positions -/

omit [Ready p sub sub'] in
/-- Behind a mark the position is quiet. -/
lemma agree_behindMark {sign : Mark} {r r' : Reader α}
    (h : Agrees p (fun i => p.starts true i ∧ p.Quiet i) s r r') :
    Agree p later true (do discard (mark sign); r) (do discard (mark sign); r') := by
  unfold mark
  simp only [discard_bind]
  refine ⟨.take_bind rfl fun i token other hi hlt htoken hkind _ => h.mono ?_⟩
  rintro _ - rfl
  exact ⟨Pairing.starts_true_of_lt hi (Nat.lt_succ_self _),
    Pairing.quiet_succ hlt htoken (hkind ▸ rfl)⟩

/-- Where no return stands on one side only, the word is taken on both sides or on none. -/
lemma agrees_return : Agrees p (fun i => p.starts later i ∧ p.Quiet i) true
    (word .return_) (word .return_) := by
  unfold word take
  refine Agrees.peek_bind_at ?_ ?_
  · intro i token other hi hlt htoken hother h
    by_cases hkind : token.kind = .keyword .return_
    · rw [if_pos hkind, if_pos (h.kind ▸ hkind)]
      rintro _ g g' rfl _ hg
      refine ⟨hg, ⟨h, _, hlt, Pairing.starts_false hi.1, htoken, hother⟩, by omega, by omega, by omega,
        by omega, ?_⟩
      rw [Pairing.level_succ htoken, hkind]
    · rw [if_neg hkind, if_neg (h.kind ▸ hkind)]
      exact .nothing
  · intro token other hstop htoken hother _
    rcases hstop.2 with hlt | ⟨hleft, hright⟩
    · omega
    · rw [if_neg (hleft token htoken), if_neg (hright other hother)]
      exact .nothing

lemma agrees_returnStatement : Agrees p (fun i => p.starts later i ∧ p.Quiet i) true
    (returnStatement sub) (returnStatement sub') := by
  have value : Agree p true false
      (do return StmtForm.returning (← optional (starExpressions sub)))
      (do return StmtForm.returning (← optional (starExpressions sub'))) := inferInstance
  have taken : Agrees p (fun i => p.starts later i ∧ p.Quiet i) true
      (discard (word .return_)) (discard (word .return_)) := by
    refine Agrees.bind (b := fun _ => True) (t := false) agrees_return ?_ fun _ _ _ _ _ _ _ => trivial
    exact fun _ _ _ => .pure rfl
  unfold returnStatement
  refine taken.bind (fun _ _ _ => value.agrees) ?_
  exact fun _ _ hi _ hs _ _ => Pairing.starts_true_of_lt hi.1 (hs rfl)

variable [Agree p later true (sub .targetPrimary) (sub' .targetPrimary)]
  [Agree p later true (sub .starTarget) (sub' .starTarget)]
  [Agree p later true (sub .singleTarget) (sub' .singleTarget)]
  [Agree p later true (sub .starExpression) (sub' .starExpression)]

/-- Statements that begin with a return agree at quiet positions, all others wherever readers are
compared. -/
lemma agrees_simpleStatement : Agrees p (fun i => p.starts later i ∧ p.Quiet i) true
    (simpleStatement sub) (simpleStatement sub') := by
  unfold simpleStatement
  refine Agrees.statement (.orElse ?_ (.orElse ?_ (.orElse agrees_returnStatement ?_)))
  · exact (Agrees.of later).mono fun _ _ h => h.1
  · exact (Agrees.of later).mono fun _ _ h => h.1
  · exact (Agrees.of later).mono fun _ _ h => h.1

/-- A line of statements agrees at quiet positions: behind a semicolon it is quiet again. -/
lemma agrees_simpleStatements : Agrees p (fun i => p.starts later i ∧ p.Quiet i) true
    (simpleStatements sub) (simpleStatements sub') := by
  have next : Agree p true true (do discard (mark .semicolon); simpleStatement sub)
      (do discard (mark .semicolon); simpleStatement sub') := agree_behindMark agrees_simpleStatement
  have line (found found' : List Stmt) (h : Compared.alike p found found') :
      Agrees p (p.starts true) true
        (do discard (optional (mark .semicolon)); discard lineEnd; return found)
        (do discard (optional (mark .semicolon)); discard lineEnd; return found') := by
    have : Similar p found found' := ⟨h⟩
    exact (inferInstance : Agree p true true _ _).agrees
  have rest (first first' : Stmt) (h : Compared.alike p first first') :
      Agrees p (p.starts true) false
        (do return first :: (← many (do discard (mark .semicolon); simpleStatement sub)))
        (do return first' :: (← many (do discard (mark .semicolon); simpleStatement sub'))) := by
    have : Similar p first first' := ⟨h⟩
    exact (inferInstance : Agree p true false _ _).agrees
  unfold simpleStatements separated
  refine Agrees.bind (s := true) (b := p.starts true) (t := true) ?_ line ?_
  · refine Agrees.bind (s := true) (b := p.starts true) (t := false) agrees_simpleStatement rest ?_
    exact fun _ _ hi _ hs _ _ => Pairing.starts_true_of_lt hi.1 (hs rfl)
  · exact fun _ _ hi _ hs _ _ => Pairing.starts_true_of_lt hi.1 (hs rfl)

end AdjointSynthesis.Code.Grammar

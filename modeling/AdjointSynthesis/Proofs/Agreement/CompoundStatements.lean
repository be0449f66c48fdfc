import AdjointSynthesis.Code.Grammar.CompoundStatements
import AdjointSynthesis.Proofs.Agreement.Patterns
import AdjointSynthesis.Proofs.Agreement.SimpleStatements

/-!
# Agreement of statements with blocks

A block behind a colon stands at a quiet position.  A block of lines further in is calm: its level
is above that of the stop, so no line of it ends there.
-/

set_option synthInstance.maxSize 1000

namespace AdjointSynthesis.Code.Grammar

open Reader

variable {α β : Type} [Compared α] [Compared β] {p : Pairing} {later s : Bool} [hp : p.Fair]
  {sub sub' : Grammar}

/-! ## Blocks behind colons -/

lemma agree_behindRequired {sign : Mark} {shown : String} {r r' : Reader α}
    (h : Agrees p (fun i => p.starts true i ∧ p.Quiet i) s r r') :
    Agree p later true (do discard (required sign shown); r)
      (do discard (required sign shown); r') := by
  unfold required
  simp only [discard_bind, bind_assoc]
  refine ⟨.peek_bind ?_ ?_⟩
  · intro i token other hi hlt htoken _ hb
    by_cases hkind : token.kind = .mark sign
    · rw [if_pos hkind, if_pos (hb.kind ▸ hkind)]
      simp only [bind_assoc, pure_bind]
      refine .skip_bind hlt (Pairing.level_succ_of_isOrdinary htoken (hkind ▸ rfl)) (h.mono ?_)
      rintro _ - rfl
      exact ⟨Pairing.starts_true_of_lt hi (Nat.lt_succ_self _),
        Pairing.quiet_succ hlt htoken (hkind ▸ rfl)⟩
    · rw [if_neg hkind, if_neg (hb.kind ▸ hkind)]
      exact .refuseOn
  · intro token other _ hpart
    rw [if_neg (hpart.left_ne rfl), if_neg (hpart.right_ne rfl)]
    exact .refuseOn

omit hp in
/-- Reading on behind a block. -/
lemma agrees_block_bind [hr : Ready p sub sub'] {f f' : List Stmt → Reader α}
    [h : ∀ twin : Twin p (List Stmt), Agree p true s (f twin.left) (f' twin.right)] :
    Agrees p (fun i => p.starts true i ∧ p.Quiet i) true (sub .block >>= f) (sub' .block >>= f') := by
  refine hr.block.bind (t := s) (fun a a' ha => (h ⟨a, a', ha⟩).agrees) ?_
  exact fun _ _ hi _ hs _ _ => Pairing.starts_of_le hi.1 (Nat.le_of_lt (hs rfl))

variable [hr : Ready p sub sub']

instance agree_requiredBlock {sign : Mark} {shown : String} :
    Agree p later true (do discard (required sign shown); sub .block)
      (do discard (required sign shown); sub' .block) := agree_behindRequired hr.block

instance agree_requiredBlock_bind {sign : Mark} {shown : String} {f f' : List Stmt → Reader α}
    [∀ twin : Twin p (List Stmt), Agree p true s (f twin.left) (f' twin.right)] :
    Agree p later true (do discard (required sign shown); sub .block >>= f)
      (do discard (required sign shown); sub' .block >>= f') :=
  agree_behindRequired (agrees_block_bind (s := s))

instance agree_blockBehind : Agree p later true (blockBehind sub) (blockBehind sub') :=
  agree_behindMark hr.block

instance agree_elseBlock : Agree p later true (elseBlock sub) (elseBlock sub') := by
  unfold elseBlock
  infer_instance

instance agree_otherwise : Agree p later false (otherwise sub) (otherwise sub') := by
  unfold otherwise
  infer_instance

/-! ## Branches and loops -/

instance agree_branch {keyword : Keyword} {shown : String}
    [Passes (Token.Kind.keyword keyword).isOrdinary] :
    Agree p later true (branch sub keyword shown) (branch sub' keyword shown) := by
  unfold branch
  infer_instance

instance agree_whileLoop : Agree p later true (whileLoop sub) (whileLoop sub') := by
  unfold whileLoop
  infer_instance

instance agree_loopBehind {start start' : Place} {head head' : Bool × Expr}
    [Similar p start start'] [Similar p head head'] :
    Agree p true true (forLoop.loopBehind sub start head) (forLoop.loopBehind sub' start' head') := by
  unfold forLoop.loopBehind
  infer_instance

instance agree_forLoop : Agree p later true (forLoop sub) (forLoop sub') := by
  unfold forLoop
  infer_instance

/-! ## Managers -/

instance agree_managerEnd : Agree p later false managerEnd managerEnd := by
  unfold managerEnd
  infer_instance

instance agree_manager [Agree p later true (sub .expression) (sub' .expression)] :
    Agree p later true (manager sub) (manager sub') := by
  unfold manager
  infer_instance

instance agree_withForm {isAsync : Bool} :
    Agree p later true (withForm sub isAsync) (withForm sub' isAsync) := by
  unfold withForm
  cases isAsync <;> simp only [Bool.false_eq_true, if_true, if_false] <;> infer_instance

instance agree_withStatement : Agree p later true (withStatement sub) (withStatement sub') := by
  unfold withStatement
  infer_instance

/-! ## Handlers -/

instance agree_caughtName : Agree p later false caughtName caughtName := by
  unfold caughtName
  infer_instance

omit hr in
instance agree_handlerOf {r r' : Reader (Option Expr × Option String × List Stmt)}
    [Agree p later true r r'] : Agree p later true (handlerOf r) (handlerOf r') := by
  have handler (twin : Twin p (Span × Option Expr × Option String × List Stmt)) :
      Agree p true false
        (match twin.left with
          | (span, type, name, body) => (pure (Handler.mk span type name body) : Reader Handler))
        (match twin.right with
          | (span, type, name, body) => pure (Handler.mk span type name body)) := by
    obtain ⟨⟨span, type, name, body⟩, ⟨span', type', name', body'⟩, hs, ht, hn, hb⟩ := twin
    have : Similar p span span' := ⟨hs⟩
    have : Similar p type type' := ⟨ht⟩
    have : Similar p name name' := ⟨hn⟩
    have : Similar p body body' := ⟨hb⟩
    infer_instance
  unfold handlerOf
  exact agree_bind_strict

instance agree_typedHandler {isGroup : Bool} :
    Agree p later true (typedHandler sub isGroup) (typedHandler sub' isGroup) := by
  unfold typedHandler
  cases isGroup <;> simp only [Bool.false_eq_true, if_true, if_false] <;> infer_instance

instance agree_plainHandler : Agree p later true (plainHandler sub) (plainHandler sub') := by
  unfold plainHandler
  infer_instance

instance agree_groupHandler : Agree p later true (groupHandler sub) (groupHandler sub') := by
  unfold groupHandler
  infer_instance

instance agree_finallyBlock : Agree p later true (finallyBlock sub) (finallyBlock sub') := by
  unfold finallyBlock
  infer_instance

instance agree_tried : Agree p later true (tried sub) (tried sub') := by
  unfold tried
  infer_instance

instance agree_handled {isGroup : Bool} {handler handler' : Reader Handler}
    [Agree p true true handler handler'] :
    Agree p later true (handled sub isGroup handler) (handled sub' isGroup handler') := by
  unfold handled
  infer_instance

instance agree_tryStatement : Agree p later true (tryStatement sub) (tryStatement sub') := by
  unfold tryStatement
  infer_instance

/-! ## Lines further in -/

/-- Two outcomes that agree, of readers that leave a block from a position on. -/
def OutcomesLeave (p : Pairing) (i : Nat) : Outcome α → Outcome α → Prop
  | .found a j, .found b k =>
    Compared.alike p a b ∧ k = j + p.shift ∧ i < j ∧ j ≤ p.stop ∧ p.level j = p.level i - 1
  | .nothing, .nothing => True
  | .refused _ _, .refused _ _ => True
  | _, _ => False

omit hr in
/-- Above the level of the stop a block is left on both sides or on none. -/
lemma leaves_dedent {j : Nat} {b b' : β} (hj : j ≤ p.stop)
    (hl : ∀ token other, p.Parting token other → p.level p.stop < p.level j)
    (hb : Compared.alike p b b') (g g' : Progress) (hg : p.keeps g.findings) :
    p.keeps ((do discard (take .dedent); return b : Reader β) p.left j g).2.findings ∧
      OutcomesLeave p j ((do discard (take .dedent); return b : Reader β) p.left j g).1
        ((do discard (take .dedent); return b' : Reader β) p.right (j + p.shift) g').1 := by
  simp only [discard_bind, take, bind_assoc]
  show p.keeps (Reader.bind Reader.peek _ p.left j g).2.findings ∧
    OutcomesLeave p j (Reader.bind Reader.peek _ p.left j g).1
      (Reader.bind Reader.peek _ p.right (j + p.shift) g').1
  unfold Reader.bind
  obtain ⟨g₁, g₁', hg₁, h⟩ := peek_cases hj g g'
  rw [← hg₁] at hg
  rcases h with ⟨token, other, hlt, htoken, -, hbeside, h, h'⟩ | ⟨token, other, rfl, -, -, hpart, -⟩ |
    ⟨h, h'⟩ | ⟨_, _, _, _, h, h'⟩
  · simp only [h, h', ← hbeside.kind]
    split
    · next hkind =>
      have hsucc := Pairing.level_succ htoken
      rw [hkind] at hsucc
      exact ⟨hg, hb, by omega, by omega, by omega, hsucc⟩
    · exact ⟨hg, trivial⟩
  · have := hl token other hpart
    omega
  · simp only [h, h']
    exact ⟨hg, trivial⟩
  · simp only [h, h']
    exact ⟨hg, trivial⟩

omit hr in
/-- Reading on behind an indentation, up to a reader that leaves it. -/
lemma agrees_indented_at {i : Nat} {token : Token} {r r' : Reader α} {q q' : α → Reader β}
    (hi : p.starts true (i + 1)) (hlt : i < p.stop)
    (htoken : p.left.source.tokens[i]? = some token) (hkind : token.kind = .indent)
    (h : Agrees p (fun i => p.starts true i ∧ p.Calm i) s r r')
    (hq : ∀ a a' j g g', Compared.alike p a a' → j ≤ p.stop →
      (∀ token other, p.Parting token other → p.level p.stop < p.level j) →
      p.keeps g.findings → p.keeps (q a p.left j g).2.findings ∧
        OutcomesLeave p j (q a p.left j g).1 (q' a' p.right (j + p.shift) g').1) :
    Agrees p (· = i) true (do skip; r >>= q) (do skip; r' >>= q') := by
  have hsucc : p.level (i + 1) = p.level i + 1 := by rw [Pairing.level_succ htoken, hkind]
  rintro _ g g' rfl _ hg
  have first := h (_ + 1) g g' ⟨hi, Pairing.calm_succ (Nat.le_of_lt hlt) htoken hkind⟩ hlt hg
  rw [Nat.add_right_comm] at first
  show p.keeps (Reader.bind r q p.left (_ + 1) g).2.findings ∧
    OutcomesAgree p true _ (Reader.bind r q p.left (_ + 1) g).1
      (Reader.bind r' q' p.right (_ + p.shift + 1) g').1
  unfold Reader.bind
  revert first
  rcases r p.left _ g with ⟨o, g₁⟩
  rcases r' p.right _ g' with ⟨o', g₁'⟩
  intro ⟨hk, ho⟩
  cases o <;> cases o' <;> simp only [OutcomesAgree] at ho <;> first
    | exact ⟨hk, trivial⟩
    | skip
  rename_i a j a' k
  obtain ⟨ha, rfl, hij, -, hj, hl⟩ := ho
  have second := hq a a' j g₁ g₁' ha hj
    (fun token other hpart => by have := hpart.level _ (Nat.le_of_lt hlt); omega) hk
  refine ⟨second.1, ?_⟩
  have leave := second.2
  revert leave
  generalize (q a p.left j g₁).1 = o
  generalize (q' a' p.right (j + p.shift) g₁').1 = o'
  cases o <;> cases o' <;> simp only [OutcomesLeave, OutcomesAgree, imp_self]
  rintro ⟨hb, hk, hj, hstop, hl'⟩
  exact ⟨hb, hk, by omega, by omega, hstop, by omega⟩

omit hr in
/-- Reading on behind an indentation, if there is one. -/
lemma agree_indented_bind {r r' : Reader α} {q q' : α → Reader β}
    (h : Agrees p (fun i => p.starts true i ∧ p.Calm i) s r r')
    (hq : ∀ a a' j g g', Compared.alike p a a' → j ≤ p.stop →
      (∀ token other, p.Parting token other → p.level p.stop < p.level j) →
      p.keeps g.findings → p.keeps (q a p.left j g).2.findings ∧
        OutcomesLeave p j (q a p.left j g).1 (q' a' p.right (j + p.shift) g').1) :
    Agree p later true (do discard (take .indent); r >>= q)
      (do discard (take .indent); r' >>= q') := by
  simp only [discard_bind, take, bind_assoc]
  refine ⟨.peek_bind_at ?_ ?_⟩
  · intro i token other hi hlt htoken _ hb
    by_cases hkind : token.kind = .indent
    · rw [if_pos hkind, if_pos (hb.kind ▸ hkind)]
      simp only [bind_assoc, pure_bind]
      have hi := Pairing.starts_true_of_lt hi (Nat.lt_succ_self i)
      exact agrees_indented_at hi hlt htoken hkind h hq
    · rw [if_neg hkind, if_neg (hb.kind ▸ hkind)]
      exact .nothing
  · intro token other _ _ _ hpart
    have hleft := hpart.left
    have hright := hpart.right
    rw [if_neg fun hk => by simp [hk, Token.Kind.isClosing] at hleft,
      if_neg fun hk => by simp [hk, Token.Kind.isClosing] at hright]
    exact .nothing

omit hr in
/-- A block of lines further in agrees with another when its lines do. -/
lemma agree_indented {r r' : Reader α} {f f' : α → β}
    (h : Agrees p (fun i => p.starts true i ∧ p.Calm i) s r r')
    (hf : ∀ a a', Compared.alike p a a' → Compared.alike p (f a) (f' a')) :
    Agree p later true
      (do discard (take .indent); let found ← r; discard (take .dedent); return f found)
      (do discard (take .indent); let found ← r'; discard (take .dedent); return f' found) :=
  agree_indented_bind h fun a a' _ g g' ha hj hl => leaves_dedent hj hl (hf a a' ha) g g'

/-! ## Matches -/

instance agree_subject [Agree p later true (sub .starExpression) (sub' .starExpression)]
    [Agree p later true (sub .expression) (sub' .expression)]
    [Agree p later true (sub .bitwiseOr) (sub' .bitwiseOr)] :
    Agree p later true (subject sub) (subject sub') := by
  unfold subject
  infer_instance

instance agree_guardOf : Agree p later false (guardOf sub) (guardOf sub') := by
  unfold guardOf
  infer_instance

instance agree_matchCase : Agree p later true (matchCase sub) (matchCase sub') := by
  unfold matchCase
  infer_instance

instance agree_matchStatement : Agree p later true (matchStatement sub) (matchStatement sub') := by
  have cases_ (twin : Twin p Expr) : Agree p true true
      (do
        discard (take .indent)
        let cases ← many1 (matchCase sub)
        discard (take .dedent)
        return StmtForm.matching twin.left cases)
      (do
        discard (take .indent)
        let cases ← many1 (matchCase sub')
        discard (take .dedent)
        return StmtForm.matching twin.right cases) := by
    refine agree_indented (s := true) ?_ fun cases cases' h => ?_
    · exact (Agrees.of true).mono fun _ _ h => h.1
    · have : Similar p cases cases' := ⟨h⟩
      exact Similar.alike
  unfold matchStatement
  infer_instance

/-! ## Definitions -/

instance agree_decorators : Agree p later true (decorators sub) (decorators sub') := by
  unfold decorators
  infer_instance

instance agree_returnHint : Agree p later false (returnHint sub) (returnHint sub') := by
  unfold returnHint
  infer_instance

instance agree_functionForm {isAsync : Bool} {decoration decoration' : List Expr}
    [Similar p decoration decoration'] :
    Agree p later true (functionForm sub isAsync decoration)
      (functionForm sub' isAsync decoration') := by
  unfold functionForm
  cases isAsync <;> simp only [Bool.false_eq_true, if_true, if_false] <;> infer_instance

instance agree_undecoratedFunction {decoration decoration' : List Expr}
    [Similar p decoration decoration'] :
    Agree p later true (undecoratedFunction sub decoration)
      (undecoratedFunction sub' decoration') := by
  unfold undecoratedFunction
  infer_instance

instance agree_functionDefinition :
    Agree p later true (functionDefinition sub) (functionDefinition sub') := by
  unfold functionDefinition
  infer_instance

instance agree_bases : Agree p later false (bases sub) (bases sub') := by
  unfold bases
  infer_instance

instance agree_undecoratedClass {decoration decoration' : List Expr}
    [Similar p decoration decoration'] :
    Agree p later true (undecoratedClass sub decoration)
      (undecoratedClass sub' decoration') := by
  unfold undecoratedClass
  infer_instance

instance agree_classDefinition :
    Agree p later true (classDefinition sub) (classDefinition sub') := by
  unfold classDefinition
  infer_instance

/-! ## Statements in a row -/

instance passes_all_nil {α : Type} {test : α → Bool} : Passes (List.all [] test) := ⟨rfl⟩

instance passes_all_cons {α : Type} {test : α → Bool} {a : α} {l : List α} [ha : Passes (test a)]
    [hl : Passes (l.all test)] : Passes ((a :: l).all test) :=
  ⟨by rw [List.all_cons, ha.passes, hl.passes]; rfl⟩

omit hr in
instance agree_behindWord {words : List Token.Kind} {r r' : Reader α}
    [hw : Passes (words.all Token.Kind.isOrdinary)] [h : Agree p later true r r'] :
    Agree p later true (behindWord words r) (behindWord words r') := by
  have ordinary := List.all_eq_true.mp hw.passes
  unfold behindWord
  refine ⟨.peek_bind ?_ ?_⟩
  · intro i token other hi _ _ _ hb
    rw [← hb.kind]
    split
    · exact h.agrees.mono fun _ _ hj => hj ▸ hi
    · exact .nothing
  · intro token other _ hpart
    rw [if_neg fun hmem => hpart.left_ne (ordinary _ (List.elem_iff.mp hmem)) rfl,
      if_neg fun hmem => hpart.right_ne (ordinary _ (List.elem_iff.mp hmem)) rfl]
    exact .nothing

instance agree_compoundStatement :
    Agree p later true (compoundStatement sub) (compoundStatement sub') := by
  unfold compoundStatement
  infer_instance

/-- Statements in a row agree where it is calm: it stays calm behind each of them. -/
lemma agrees_statements : Agrees p (fun i => p.starts true i ∧ p.Calm i) true
    (statements sub) (statements sub') := by
  have one : Agrees p (fun i => p.starts true i ∧ p.Calm i) true
      ((do return [← compoundStatement sub]) <|> simpleStatements sub)
      ((do return [← compoundStatement sub']) <|> simpleStatements sub') := by
    refine .orElse ?_ ?_
    · exact (Agrees.of true).mono fun _ _ h => h.1
    · have line : Agrees p (fun i => p.starts true i ∧ p.Quiet i) true
          (simpleStatements sub) (simpleStatements sub') := agrees_simpleStatements
      exact line.mono fun _ hi h => ⟨h.1, h.2.quiet hi⟩
  unfold statements
  refine Agrees.bind (t := false) (b := fun _ => True) (Agrees.many1 one ?_) ?_ ?_
  · exact fun i j hi hij _ hl => ⟨Pairing.starts_of_le hi.1 hij, hi.2.of_level_eq hl⟩
  · exact fun found found' h => .pure (List.rel_flatten h)
  · exact fun _ _ _ _ _ _ _ => trivial

section

variable [Agree p later true (sub .targetPrimary) (sub' .targetPrimary)]
  [Agree p later true (sub .starTarget) (sub' .starTarget)]
  [Agree p later true (sub .singleTarget) (sub' .singleTarget)]
  [Agree p later true (sub .starExpression) (sub' .starExpression)]

lemma agrees_blockRule : Agrees p (fun i => p.starts later i ∧ p.Quiet i) true
    (blockRule sub) (blockRule sub') := by
  have lines : Agree p true true
      (do discard (take .indent); let found ← statements sub; discard (take .dedent); return found)
      (do discard (take .indent); let found ← statements sub'; discard (take .dedent); return found) :=
    agree_indented agrees_statements fun _ _ h => h
  unfold blockRule
  refine .orElse ?_ (.orElse agrees_simpleStatements .faults)
  exact (Agrees.of later).mono fun _ _ h => h.1

end

instance agree_elifRule : Agree p later true (elifRule sub) (elifRule sub') := by
  unfold elifRule
  infer_instance

end AdjointSynthesis.Code.Grammar

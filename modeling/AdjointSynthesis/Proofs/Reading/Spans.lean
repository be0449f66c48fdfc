import AdjointSynthesis.Proofs.Reading.Targets
import AdjointSynthesis.Proofs.Scanning.Order

/-!
# Where statements end

A statement ends with the last word that was taken for it.  The statements in the block of a function
are read behind the word that the function starts with, so they end on no earlier line.

* `Grammar.ready_forgetful`: the grammar without memory agrees with itself, so it never goes back.
* `EndsBehind`: a reader finds statements that end where it stops.
* `Grammar.yields_blockRule`: what holds of statements holds of the statements of a block.
* `isSpannedIn_of_read`: so do the statements in the block of any function of a program.
-/

set_option synthInstance.maxSize 1000

namespace AdjointSynthesis.Code

open Reader

/-! ## The grammar beside itself -/

/-- A context beside itself. -/
def itself (context : Context) : Pairing := besideItself (fun _ => true) context 0 fun _ => True

namespace Grammar

variable {context : Context}

lemma fair_itself (h : context.searching = false) : (itself context).Fair :=
  fair_besideItself ⟨h, fun _ _ _ => rfl⟩

lemma resultsAgree_self (result : Except Fault Expr) :
    ResultsAgree (itself context) result result := by
  cases result <;> trivial

/-- The grammar without memory agrees with itself where its fields are read alike. -/
lemma ready_forgetful_of_field {p : Pairing} [p.Fair]
    (hfield : ∀ (sub : Grammar) (token other : Token) (before behindBrace expression : List Char),
      p.Matched token other → expression.length + 5 ≤ token.written.length →
        ResultsAgree p
          (readAll (starExpressions sub)
            (fieldTokens (fieldPlace token before behindBrace) expression) true)
          (readAll (starExpressions sub)
            (fieldTokens (fieldPlace other before behindBrace) expression) true))
    (steps : Nat) : Ready p (forgetful steps) (forgetful steps) := by
  induction steps with
  | zero =>
    exact {
      expression := agree_nothing
      starExpression := agree_nothing
      disjunction := agree_nothing
      inversion := agree_nothing
      bitwiseOr := agree_nothing
      factor := agree_nothing
      primary := agree_nothing
      text := agree_nothing
      arguments := agree_nothing
      starTarget := agree_nothing
      targetAtom := agree_nothing
      targetPrimary := agree_nothing
      singleTarget := agree_nothing
      deleteTarget := agree_nothing
      pattern := agree_nothing
      elifBranch := agree_nothing
      block := .nothing
      field := hfield _ }
  | succ steps ih =>
    exact {
      expression := agree_expressionRule
      starExpression := agree_starExpressionRule
      disjunction := agree_disjunctionRule
      inversion := agree_inversionRule
      bitwiseOr := agree_bitwiseOrRule
      factor := agree_factorRule
      primary := agree_primaryRule
      text := agree_textRule
      arguments := agree_argumentsRule
      starTarget := agree_starTargetRule
      targetAtom := agree_targetAtomRule
      targetPrimary := agree_targetPrimaryRule
      singleTarget := agree_singleTargetRule
      deleteTarget := agree_deleteTargetRule
      pattern := agree_patternRule
      elifBranch := agree_elifRule
      block := agrees_blockRule
      field := hfield _ }

/-- The grammar without memory agrees with itself on one text. -/
lemma ready_forgetful (h : context.searching = false) (steps : Nat) :
    Ready (itself context) (forgetful steps) (forgetful steps) := by
  have hfair := fair_itself h
  refine ready_forgetful_of_field (fun sub token other before behindBrace expression h _ => ?_) steps
  -- tokens that stand beside each other are the same here
  obtain ⟨i, -, -, htoken, hother⟩ := h.position
  obtain rfl : token = other := Option.some.inj (htoken.symm.trans hother)
  exact resultsAgree_self _

end Grammar

/-! ## Positions from some one on -/

/-- The positions from some one on, up to the end of the tokens. -/
def Context.From (context : Context) (origin position : Nat) : Prop :=
  origin ≤ position ∧ position ≤ context.source.tokens.size

section
variable {α β : Type} {context : Context} {origin : Nat}

/-- A reader that agrees with itself does not go back. -/
lemma yields_of_agrees [Compared α] {strict : Bool} {at_ : Nat → Prop} {r : Reader α}
    (h : Reader.Agrees (itself context) at_ strict r r) (hat : ∀ i, at_ i) :
    Yields context r (fun _ => True) (context.From origin) := by
  intro position progress value next after hposition hfound
  -- both runs are this run, and what agrees with something stops no earlier than it starts
  have hagree := (h position progress progress (hat position) hposition.2 trivial).2
  have hright : r (itself context).right (position + (itself context).shift) progress =
    (.found value next, after) := hfound
  have hleft : r (itself context).left position progress = (.found value next, after) := hfound
  rw [hleft, hright] at hagree
  obtain ⟨-, -, hle, -, hsize, -⟩ := hagree
  exact ⟨⟨Nat.le_trans hposition.1 hle, hsize⟩, trivial⟩

lemma yields_of_agree [Compared α] {strict : Bool} {r : Reader α}
    (h : Reader.Agree (itself context) true strict r r) :
    Yields context r (fun _ => True) (context.From origin) :=
  yields_of_agrees h.agrees fun i => Nat.zero_le i

/-- What comes first makes no difference if it does not go back. -/
lemma yields_past [Compared α] {strict : Bool} {r : Reader α} {f : α → Reader β} {P : β → Prop}
    [h : Reader.Agree (itself context) true strict r r]
    (hf : ∀ a, Yields context (f a) P (context.From origin)) :
    Yields context (r >>= f) P (context.From origin) :=
  (yields_of_agree h).bind fun a _ => hf a

lemma yields_take {kind : Token.Kind} :
    Yields context (Reader.take kind) (fun _ => True) (context.From origin) := by
  refine Triple.take.weaken (fun _ h => h) ?_
  rintro _ _ ⟨i, hi, rfl, htoken, -⟩
  have hlt := (Array.getElem?_eq_some_iff.mp htoken).1
  exact ⟨⟨Nat.le_succ_of_le hi.1, hlt⟩, trivial⟩

/-- Reading on behind a token of a kind. -/
lemma triple_behindTake {kind : Token.Kind} {d : Nat} {r : Reader α} {Q : α → Nat → Prop}
    (h : ∀ token, context.source.tokens[d]? = some token → token.kind = kind →
      Triple context (· = d + 1) r Q) :
    Triple context (· = d) (do discard (Reader.take kind); r) Q := by
  rw [discard_bind]
  refine Triple.take.bind fun token => ?_
  intro position progress value next after hposition hfound
  obtain ⟨_, rfl, rfl, htoken, hkind⟩ := hposition
  exact h token htoken hkind _ _ _ _ _ rfl hfound

end

/-! ## Ends of statements -/

/-- A statement ends with the last word before some position from an origin on. -/
def Context.EndsFrom (context : Context) (origin : Nat) (stmt : Stmt) : Prop :=
  ∃ position, origin ≤ position ∧
    stmt.span.stop = Reader.wordEnd context.source.tokens position

/-- A reader of statements finds them with the last word before it stops. -/
def EndsBehind (context : Context) (reader : Reader Stmt) : Prop :=
  Triple context (fun _ => True) reader fun stmt next =>
    stmt.span.stop = Reader.wordEnd context.source.tokens next

section
variable {α : Type} {context : Context} {r r' : Reader Stmt} {origin d : Nat}

lemma triple_spanFrom {start : Place} {I : Nat → Prop} : Triple context I (Reader.spanFrom start)
    fun span next => I next ∧ span = ⟨start, Reader.wordEnd context.source.tokens next⟩ := by
  refine Triple.bind (Q := fun place next =>
    I next ∧ place = Reader.wordEnd context.source.tokens next) ?_ fun place => .pure ?_
  · intro _ _ _ _ _ hposition hfound
    cases hfound
    exact ⟨hposition, rfl⟩
  · rintro next ⟨hnext, rfl⟩
    exact ⟨hnext, rfl⟩

/-- A form is read as a statement from the token it stands at to the last word taken for it. -/
lemma triple_statement {r : Reader StmtForm} {Q : StmtForm → Nat → Prop}
    (h : Triple context (· = d) r Q) : Triple context (· = d) (Reader.statement r) fun stmt next =>
      ∃ token, context.source.tokens[d]? = some token ∧
        stmt.span = ⟨token.span.start, Reader.wordEnd context.source.tokens next⟩ ∧
        Q stmt.form next := by
  have hspanned : Triple context (· = d) (Reader.spanned r) fun found next =>
      ∃ token, context.source.tokens[d]? = some token ∧
        found.1 = ⟨token.span.start, Reader.wordEnd context.source.tokens next⟩ ∧
        Q found.2 next := by
    refine Triple.bind (Q := fun start next => next = d ∧
      ∃ token, context.source.tokens[d]? = some token ∧ token.span.start = start) ?_ fun start => ?_
    · refine Triple.peek.bind fun token => .pure ?_
      rintro _ ⟨rfl, htoken⟩
      exact ⟨rfl, token, htoken, rfl⟩
    refine .of_and fun ⟨token, htoken, hstart⟩ => h.bind fun form => ?_
    refine triple_spanFrom.bind fun span => .pure ?_
    rintro next ⟨hform, rfl⟩
    exact ⟨token, htoken, by rw [hstart], hform⟩
  refine hspanned.bind fun found => .pure ?_
  rintro next ⟨token, htoken, hspan, hform⟩
  exact ⟨token, htoken, hspan, hform⟩

namespace EndsBehind

lemma statement {r : Reader StmtForm} : EndsBehind context (Reader.statement r) := by
  refine .of_forall fun d _ => (triple_statement (Q := fun _ _ => True) .any).weaken
    (fun _ hi => hi) ?_
  rintro stmt next ⟨token, -, hspan, -⟩
  rw [hspan]

lemma orElse (h : EndsBehind context r) (h' : EndsBehind context r') :
    EndsBehind context (r <|> r') := Triple.orElse h h'

lemma faults {alternatives : List (Reader Unit)} :
    EndsBehind context (Reader.faults alternatives) := Triple.faults

lemma behind {first : Reader α} {f : α → Reader Stmt} (hf : ∀ a, EndsBehind context (f a)) :
    EndsBehind context (first >>= f) := Triple.behind hf

lemma behindWord {words : List Token.Kind} (h : EndsBehind context r) :
    EndsBehind context (Grammar.behindWord words r) := by
  refine behind fun token => ?_
  split
  · exact h
  · exact Triple.nothing

end EndsBehind

end

namespace Grammar

variable {context : Context} {sub : Grammar} {origin d : Nat}

lemma endsBehind_forLoop : EndsBehind context (forLoop sub) := by
  have htail (start : Place) (head : Bool × Expr) :
      EndsBehind context (forLoop.loopBehind sub start head) := by
    refine .behind fun _ => .behind fun _ => .behind fun _ => triple_spanFrom.bind fun span => .pure ?_
    rintro next ⟨-, rfl⟩
    rfl
  refine .behind fun start => Triple.settle <| .orElse .faults <| .orElse ?_ <| .orElse ?_ .faults
  · exact .committed (htail start)
  · exact .committed (htail start)

lemma endsBehind_undecoratedFunction (decoration : List Expr) :
    EndsBehind context (undecoratedFunction sub decoration) := .orElse .faults .statement

lemma endsBehind_undecoratedClass (decoration : List Expr) :
    EndsBehind context (undecoratedClass sub decoration) := .orElse .faults .statement

lemma endsBehind_compoundStatement : EndsBehind context (compoundStatement sub) := by
  refine .orElse (.behindWord ?_) <| .orElse (.behindWord ?_) <| .orElse (.behindWord ?_) <|
    .orElse (.behindWord ?_) <| .orElse (.behindWord endsBehind_forLoop) <|
    .orElse (.behindWord ?_) <| .orElse (.behindWord ?_) ?_
  · exact .orElse (.behind endsBehind_undecoratedFunction) (endsBehind_undecoratedFunction [])
  · exact .orElse .faults (.orElse .statement .statement)
  · exact .orElse (.behind endsBehind_undecoratedClass) (endsBehind_undecoratedClass [])
  · exact .orElse .faults (.orElse .statement .faults)
  · exact .orElse .faults .statement
  · exact .orElse .faults .statement
  · exact .orElse .statement .faults

/-- What is read behind some position ends behind it. -/
lemma yields_endsFrom {r : Reader Stmt} (hends : EndsBehind context r)
    (h : Yields context r (fun _ => True) (context.From origin)) :
    Yields context r (context.EndsFrom origin) (context.From origin) :=
  (Triple.and h (hends.weaken (fun _ _ => trivial) fun _ _ hstop => hstop)).weaken
    (fun _ hi => hi) fun _ next hfound => ⟨hfound.1.1, next, hfound.1.1.1, hfound.2⟩

section
variable {P : Stmt → Prop} (hsimple : Yields context (simpleStatement sub) P (context.From origin))
include hsimple

lemma yields_simpleStatements :
    Yields context (simpleStatements sub) (∀ stmt ∈ ·, P stmt) (context.From origin) := by
  refine (Yields.separated_by yields_take hsimple).bind fun found hfound => ?_
  exact yields_take.optional.discard.bind fun _ _ => yields_take.discard.bind fun _ _ => .pure hfound

variable (hcompound : Yields context (compoundStatement sub) P (context.From origin))
include hcompound

lemma yields_statements :
    Yields context (statements sub) (∀ stmt ∈ ·, P stmt) (context.From origin) := by
  have heach : Yields context
      ((do return [← compoundStatement sub]) <|> simpleStatements sub)
      (∀ stmt ∈ ·, P stmt) (context.From origin) :=
    .orElse (hcompound.bind fun _ hfound => .pure (List.forall_mem_singleton.mpr hfound))
      (yields_simpleStatements hsimple)
  refine heach.many1.bind fun parts hparts => .pure fun stmt hmem => ?_
  obtain ⟨part, hpart, hmem⟩ := List.mem_flatten.mp hmem
  exact hparts part hpart stmt hmem

/-- What holds of each statement that is read behind a position holds of the statements of a block
there. -/
lemma yields_blockRule :
    Yields context (blockRule sub) (∀ stmt ∈ ·, P stmt) (context.From origin) := by
  refine .orElse ?_ (.orElse (yields_simpleStatements hsimple) .faults)
  refine yields_take.discard.bind fun _ _ => yields_take.discard.bind fun _ _ => ?_
  exact (yields_statements hsimple hcompound).bind fun found hfound =>
    yields_take.discard.bind fun _ _ => .pure hfound

end

section
variable (hplain : context.searching = false) [hready : Ready (itself context) sub sub]
include hplain hready

/-- Statements do not go back. -/
lemma yields_simpleStatement :
    Yields context (simpleStatement sub) (fun _ => True) (context.From origin) := by
  have hfair := fair_itself hplain
  have hagrees : Reader.Agrees (itself context)
      (fun i => (itself context).starts true i ∧ (itself context).Quiet i) true
      (simpleStatement sub) (simpleStatement sub) := agrees_simpleStatement
  exact yields_of_agrees hagrees fun i => ⟨Nat.zero_le i, .inr isWhole_besideItself.silent⟩

lemma yields_compoundStatement :
    Yields context (compoundStatement sub) (fun _ => True) (context.From origin) := by
  have hfair := fair_itself hplain
  exact yields_of_agree inferInstance

end

/-! ## Functions -/

/-- The statements of a block end behind the position that it is read from. -/
lemma yields_block (hplain : context.searching = false) (steps : Nat) :
    Yields context (forgetful steps .block) (∀ stmt ∈ ·, context.EndsFrom origin stmt)
      (context.From origin) := by
  cases steps with
  | zero => exact .nothing
  | succ steps =>
    have hready := ready_forgetful hplain steps
    exact yields_blockRule (yields_endsFrom .statement (yields_simpleStatement hplain))
      (yields_endsFrom endsBehind_compoundStatement (yields_compoundStatement hplain))

end Grammar

/-- The statements in the block of a function. -/
def StmtForm.functionBody : StmtForm → List Stmt
  | .function _ _ _ body _ _ => body
  | _ => []

namespace Grammar

variable {context : Context} {steps d : Nat}

/-- A function starts with a word, and its block is read behind that. -/
lemma triple_functionForm (hplain : context.searching = false) (isAsync : Bool)
    (decoration : List Expr) {P : Stmt → Prop}
    (hblock : Yields context (forgetful steps .block) (∀ stmt ∈ ·, P stmt)
      (context.From (d + 1))) :
    Triple context (· = d) (functionForm (forgetful steps) isAsync decoration) fun form _ =>
      ∃ token, context.source.tokens[d]? = some token ∧ token.isLayout = false ∧
        ∀ stmt ∈ form.functionBody, P stmt := by
  have hfair := fair_itself hplain
  have hready := ready_forgetful hplain steps
  have hrest : Yields context (do
      let name ← identifier
      discard (required .openParen "(")
      let found ← optional (parameters (forgetful steps) .function)
      discard (mark .closeParen)
      let hint ← returnHint (forgetful steps)
      discard (required .colon ":")
      let body ← forgetful steps .block
      return StmtForm.function isAsync name (found.getD .none) body decoration hint)
      (∀ stmt ∈ ·.functionBody, P stmt) (context.From (d + 1)) := by
    refine yields_past fun _ => yields_past fun _ => yields_past fun _ => yields_past fun _ => ?_
    refine yields_past fun _ => yields_past fun _ => ?_
    exact hblock.bind fun _ hbody => .pure hbody
  -- whatever is read behind the first word is read from the next position on
  have hword {keyword : Keyword} {r : Reader StmtForm} (h : Yields context r
      (∀ stmt ∈ ·.functionBody, P stmt) (context.From (d + 1))) :
      Triple context (· = d) (do discard (word keyword); r) fun form _ =>
        ∃ token, context.source.tokens[d]? = some token ∧ token.isLayout = false ∧
          ∀ stmt ∈ form.functionBody, P stmt := by
    refine triple_behindTake fun token htoken hkind => Triple.weaken h ?_ ?_
    · rintro _ rfl
      exact ⟨Nat.le_refl _, (Array.getElem?_eq_some_iff.mp htoken).1⟩
    · intro form next hfound
      exact ⟨token, htoken, by rw [Token.isLayout, hkind], hfound.2⟩
  unfold functionForm
  cases isAsync with
  | false =>
    rw [if_neg Bool.false_ne_true]
    exact hword hrest
  | true =>
    rw [if_pos rfl]
    exact hword (yields_past fun _ => hrest)

end Grammar

/-- A function starts with a word, and the statements of its block end on no earlier line. -/
def Context.IsSpannedIn (context : Context) (stmt : Stmt) : Prop :=
  stmt.form.isFunction = true → ∃ token ∈ context.source.tokens, token.isLayout = false ∧
    stmt.span.start = token.span.start ∧
    ∀ inner ∈ stmt.form.functionBody, stmt.span.start.line ≤ inner.span.stop.line

namespace Grammar

/-- The functions of a text are spanned as they should be. -/
lemma yields_isSpannedIn (text : List Char) (steps : Nat) (decoration : List Expr) :
    Yields ⟨.ofText text, false, false⟩ (undecoratedFunction (forgetful steps) decoration)
      (Context.IsSpannedIn ⟨.ofText text, false, false⟩) := by
  refine .orElse .faults ?_
  refine (Triple.of_forall (Q := fun stmt _ =>
    Context.IsSpannedIn ⟨.ofText text, false, false⟩ stmt) fun d _ => ?_).weaken
    (fun _ hi => hi) fun _ _ hfound => ⟨trivial, hfound⟩
  have hblock : Yields ⟨.ofText text, false, false⟩ (forgetful steps .block)
      (∀ stmt ∈ ·, Context.EndsFrom _ (d + 1) stmt) (Context.From _ (d + 1)) := yields_block rfl steps
  refine (triple_statement (.orElse (triple_functionForm rfl false decoration hblock)
    (triple_functionForm rfl true decoration hblock))).weaken (fun _ hi => hi) ?_
  rintro stmt next ⟨token, htoken, hspan, other, hother, hword, hbody⟩ -
  obtain rfl : token = other := Option.some.inj (htoken.symm.trans hother)
  refine ⟨token, Array.mem_of_getElem? htoken, hword, by rw [hspan], fun inner hinner => ?_⟩
  -- it ends with a word behind the one that the function starts with
  obtain ⟨position, hposition, hstop⟩ := hbody inner hinner
  rw [hspan, hstop]
  exact line_le_wordEnd hposition htoken hword

lemma yields_isAssignment {context : Context} {sub : Grammar} :
    Yields context (assignment sub) fun form => form.isAssignment = true := by
  refine .settle <| .orElse (.unsettled ?_) <| .orElse (.unsettled ?_) <| .orElse (.unsettled ?_) <|
    .orElse (.committed .any fun _ _ => .behind fun _ => .pure rfl) .faults
  · exact .behind fun _ => yields_annotationOf fun _ _ => rfl
  · exact .behind fun _ => yields_annotationOf fun _ _ => rfl
  · exact .behind fun _ => .behind fun _ => .behind fun _ => .pure rfl

end Grammar

/-- **Every function of a program starts with a word, and the statements of its block end on no
earlier line.** -/
theorem isSpannedIn_of_read {text : List Char} {statements : List Stmt}
    (h : read text = .ok statements) :
    ∀ stmt ∈ allIn statements, Context.IsSpannedIn ⟨.ofText text, false, false⟩ stmt := by
  -- a text is read as the grammar without memory reads it
  have hread := (read_eq_ok_iff (Nat.le_refl _) statements).mp h
  have hother {span : Span} {form : StmtForm} (hform : form.isFunction = false) :
      Context.IsSpannedIn ⟨.ofText text, false, false⟩ (.mk span form) := by
    intro hfunction
    rw [Stmt.form, hform] at hfunction
    cases hfunction
  have hholds := Grammar.findsHolding_forgetful
    (P := Context.IsSpannedIn ⟨.ofText text, false, false⟩)
    (fun span form hform => hother (by simp_all [StmtForm.isOther]))
    (fun steps => Grammar.yields_isAssignment.weaken fun form hform => ?_)
    (Grammar.yields_isSpannedIn text) (Grammar.stepsFor text)
  · exact holdsIn_of_forall (Triple.of_readAll hholds.program trivial hread).2
  · refine holdsInForm_of_inside_eq_nil (fun span => hother ?_) ?_ <;> cases form <;> first
      | rfl
      | cases hform

end AdjointSynthesis.Code

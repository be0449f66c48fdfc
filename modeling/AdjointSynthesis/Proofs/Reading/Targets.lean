import AdjointSynthesis.Code.Assignment
import AdjointSynthesis.Proofs.Forgetful
import AdjointSynthesis.Proofs.Reading.Triples

/-!
# What is read where

Facts about what readers find, whatever they go through to find it.  They are proved for the grammar
without memory, which reads what the grammar reads.

* `Expr.parts`: what a value assigned to a target is taken apart for, at any depth.
* `Grammar.findsHolding_forgetful`: what holds of the assignments and functions that are found holds
  of all statements, at any depth.
* `isAnchoredIn_of_read`: every part of every target of a program starts at a token.
-/

namespace AdjointSynthesis.Code

open Reader

/-! ## Spans of what is found -/

section
variable {α : Type} {context : Context} {r : Reader α} {P : α → Prop}

/-- A place where a token starts. -/
def Context.IsStart (context : Context) (place : Place) : Prop :=
  ∃ token ∈ context.source.tokens, token.span.start = place

lemma yields_here : Yields context Reader.here context.IsStart := by
  refine Yields.bind (P := (· ∈ context.source.tokens)) ?_ fun token hmem =>
    .pure ⟨token, hmem, rfl⟩
  exact Triple.peek.weaken (fun _ h => h) fun _ _ hfound =>
    ⟨trivial, Array.mem_of_getElem? hfound.2⟩

lemma yields_spanFrom {start : Place} :
    Yields context (Reader.spanFrom start) fun span => span.start = start :=
  .behind fun _ => .pure rfl

lemma Yields.spanned (h : Yields context r P) :
    Yields context (Reader.spanned r) fun found => context.IsStart found.1.start ∧ P found.2 := by
  refine yields_here.bind fun start hstart => h.bind fun value hvalue => ?_
  refine yields_spanFrom.bind fun span hspan => .pure ⟨?_, hvalue⟩
  rw [hspan]
  exact hstart

lemma Yields.expression {r : Reader Form} {P : Expr → Prop}
    (h : Yields context r fun form => ∀ span, context.IsStart span.start → P (.mk span form)) :
    Yields context (Reader.expression r) P :=
  h.spanned.bind fun found hfound => .pure (hfound.2 found.1 hfound.1)

lemma Yields.statement {r : Reader StmtForm} {P : Stmt → Prop}
    (h : Yields context r fun form => ∀ span, P (.mk span form)) :
    Yields context (Reader.statement r) P :=
  h.spanned.bind fun found hfound => .pure (hfound.2 found.1)

end

/-! ## Parts of targets -/

mutual

/-- A target and what a value that is assigned to it is taken apart for, at any depth. -/
def Expr.parts : Expr → List Expr
  | .mk span (.tuple items) => .mk span (.tuple items) :: partsIn items
  | .mk span (.list items) => .mk span (.list items) :: partsIn items
  | .mk span (.starred value) => .mk span (.starred value) :: value.parts
  | target => [target]

/-- The parts of some targets. -/
def partsIn : List Expr → List Expr
  | [] => []
  | item :: rest => item.parts ++ partsIn rest

end

lemma partsIn_eq (items : List Expr) : partsIn items = items.flatMap Expr.parts := by
  induction items with
  | nil => rw [partsIn, List.flatMap_nil]
  | cons item rest ih => rw [partsIn, ih, List.flatMap_cons]

lemma mem_parts (target : Expr) : target ∈ target.parts := by
  unfold Expr.parts
  split <;> exact List.mem_cons_self

/-- Every part of a target starts at a token. -/
def Context.IsAnchored (context : Context) (target : Expr) : Prop :=
  ∀ part ∈ target.parts, context.IsStart part.span.start

section
variable {context : Context} {span : Span} (hstart : context.IsStart span.start)
include hstart

lemma isAnchored_of_parts_eq {form : Form} {more : List Expr}
    (hparts : (Expr.mk span form).parts = .mk span form :: more)
    (h : ∀ part ∈ more, context.IsStart part.span.start) : context.IsAnchored (.mk span form) := by
  intro part hmem
  rw [hparts] at hmem
  rcases List.mem_cons.mp hmem with rfl | hmem
  · exact hstart
  · exact h part hmem

lemma isAnchored_tuple {items : List Expr} (h : ∀ item ∈ items, context.IsAnchored item) :
    context.IsAnchored (.mk span (.tuple items)) := by
  refine isAnchored_of_parts_eq hstart (by rw [Expr.parts, partsIn_eq]) fun part hmem => ?_
  obtain ⟨item, hitem, hpart⟩ := List.mem_flatMap.mp hmem
  exact h item hitem part hpart

lemma isAnchored_list {items : List Expr} (h : ∀ item ∈ items, context.IsAnchored item) :
    context.IsAnchored (.mk span (.list items)) := by
  refine isAnchored_of_parts_eq hstart (by rw [Expr.parts, partsIn_eq]) fun part hmem => ?_
  obtain ⟨item, hitem, hpart⟩ := List.mem_flatMap.mp hmem
  exact h item hitem part hpart

lemma isAnchored_starred {value : Expr} (h : context.IsAnchored value) :
    context.IsAnchored (.mk span (.starred value)) :=
  isAnchored_of_parts_eq hstart (by rw [Expr.parts]) h

lemma isAnchored_name {name : String} : context.IsAnchored (.mk span (.name name)) :=
  isAnchored_of_parts_eq hstart (by rw [Expr.parts]; all_goals nofun) (List.forall_mem_nil _)

lemma isAnchored_attribute {value : Expr} {name : String} :
    context.IsAnchored (.mk span (.attribute value name)) :=
  isAnchored_of_parts_eq hstart (by rw [Expr.parts]; all_goals nofun) (List.forall_mem_nil _)

lemma isAnchored_subscript {value index : Expr} :
    context.IsAnchored (.mk span (.subscript value index)) :=
  isAnchored_of_parts_eq hstart (by rw [Expr.parts]; all_goals nofun) (List.forall_mem_nil _)

end

namespace Grammar

variable {context : Context} {sub : Grammar}

/-! ## Rules of targets -/

/-- The rules that others go through to find targets find them at tokens. -/
structure FindsAnchored (context : Context) (sub : Grammar) : Prop where
  starTarget : Yields context (sub .starTarget) context.IsAnchored
  targetAtom : Yields context (sub .targetAtom) context.IsAnchored
  singleTarget : Yields context (sub .singleTarget) context.IsAnchored

lemma yields_nameExpression : Yields context nameExpression context.IsAnchored :=
  .expression <| .behind fun _ => .pure fun _ hstart => isAnchored_name hstart

lemma yields_attributeOf {start : Place} (hstart : context.IsStart start) (value : Expr) :
    Yields context (attributeOf start value) context.IsAnchored :=
  .behind fun _ => .behind fun _ => yields_spanFrom.bind fun _ hspan =>
    .pure (isAnchored_attribute (hspan ▸ hstart))

lemma yields_subscriptOf {start : Place} (hstart : context.IsStart start) (value : Expr) :
    Yields context (subscriptOf sub start value) context.IsAnchored :=
  .behind fun _ => .behind fun _ => .behind fun _ => yields_spanFrom.bind fun _ hspan =>
    .pure (isAnchored_subscript (hspan ▸ hstart))

lemma yields_partTarget : Yields context (partTarget sub) context.IsAnchored := by
  refine yields_here.bind fun start hstart => .orElse ?_ ?_
  · exact .behind fun value => (yields_attributeOf hstart value).bind fun _ hfound =>
      .behind fun _ => .pure hfound
  · exact .behind fun value => (yields_subscriptOf hstart value).bind fun _ hfound =>
      .behind fun _ => .pure hfound

/-- Something in brackets has the property that it has without them. -/
lemma yields_bracketed {opening closing : Mark} {r : Reader Expr} {P : Expr → Prop}
    (h : Yields context r P) :
    Yields context (do discard (mark opening); let found ← r; discard (mark closing); return found)
      P :=
  .behind fun _ => h.bind fun _ hfound => .behind fun _ => .pure hfound

section
variable (h : FindsAnchored context sub)
include h

lemma yields_starTargetRule : Yields context (starTargetRule sub) context.IsAnchored := by
  refine .orElse (.expression ?_) h.targetAtom
  exact .behind fun _ => .behind fun _ => h.starTarget.bind fun _ hvalue =>
    .pure fun _ hstart => isAnchored_starred hstart hvalue

lemma yields_tupleTarget : Yields context (tupleTarget sub) context.IsAnchored := by
  have hitems : Yields context (do
      let first ← sub .starTarget
      let more ← many do
        discard (mark .comma)
        sub .starTarget
      let trailing ← optional (mark .comma)
      if more.isEmpty && trailing.isNone then nothing
      else return first :: more) (∀ item ∈ ·, context.IsAnchored item) := by
    refine h.starTarget.bind fun first hfirst => ?_
    refine (Yields.many (.behind fun _ => h.starTarget)).bind fun more hmore => ?_
    refine .behind fun trailing => ?_
    split
    · exact .nothing
    · exact .pure (List.forall_mem_cons.mpr ⟨hfirst, hmore⟩)
  refine .expression <| .behind fun _ => hitems.optional.bind fun items hitems => ?_
  refine .behind fun _ => .pure fun span hstart => isAnchored_tuple hstart ?_
  cases items with
  | none => exact fun _ hmem => by cases hmem
  | some items => exact hitems items rfl

lemma yields_listTarget : Yields context (listTarget sub) context.IsAnchored := by
  refine .expression <| .behind fun _ => ?_
  refine h.starTarget.commaSeparated.optional.bind fun items hitems => ?_
  refine .behind fun _ => .pure fun span hstart => isAnchored_list hstart ?_
  cases items with
  | none => exact fun _ hmem => by cases hmem
  | some items => exact hitems items rfl

lemma yields_targetAtomRule : Yields context (targetAtomRule sub) context.IsAnchored :=
  yields_partTarget.orElse <| yields_nameExpression.orElse <|
    (yields_bracketed h.targetAtom).orElse <|
    (yields_tupleTarget h).orElse (yields_listTarget h)

lemma yields_singleTargetRule : Yields context (singleTargetRule sub) context.IsAnchored :=
  yields_partTarget.orElse <| yields_nameExpression.orElse <| yields_bracketed h.singleTarget

lemma yields_annotatedTarget : Yields context (annotatedTarget sub) context.IsAnchored :=
  (yields_bracketed h.singleTarget).orElse yields_partTarget

lemma yields_starTargets : Yields context (starTargets sub) context.IsAnchored := by
  refine yields_here.bind fun start hstart => h.starTarget.bind fun first hfirst => ?_
  refine (Yields.many (.behind fun _ => h.starTarget)).bind fun more hmore => ?_
  refine .behind fun trailing => ?_
  split
  · exact .pure hfirst
  · refine yields_spanFrom.bind fun span hspan => .pure (isAnchored_tuple (hspan ▸ hstart) ?_)
    exact List.forall_mem_cons.mpr ⟨hfirst, hmore⟩

end

lemma findsAnchored_forgetful (context : Context) (steps : Nat) :
    FindsAnchored context (forgetful steps) := by
  induction steps with
  | zero => exact ⟨.nothing, .nothing, .nothing⟩
  | succ steps ih =>
    exact ⟨yields_starTargetRule ih, yields_targetAtomRule ih, yields_singleTargetRule ih⟩

end Grammar

/-! ## Statements at any depth -/

/-- The statements of a handler. -/
def Handler.body : Handler → List Stmt
  | .mk _ _ _ body => body

/-- The statements of a case. -/
def MatchCase.body : MatchCase → List Stmt
  | .mk _ _ body => body

/-- The statements inside a form. -/
def StmtForm.inside : StmtForm → List Stmt
  | .function _ _ _ body _ _ => allIn body
  | .classDefinition _ _ _ body _ => allIn body
  | .forLoop _ _ _ body otherwise => allIn body ++ allIn otherwise
  | .whileLoop _ body otherwise => allIn body ++ allIn otherwise
  | .branch _ body otherwise => allIn body ++ allIn otherwise
  | .withBlock _ _ body => allIn body
  | .matching _ cases => allInCases cases
  | .trying _ body handlers otherwise finally_ =>
    allIn body ++ allInHandlers handlers ++ allIn otherwise ++ allIn finally_
  | _ => []

/-- Whether a form assigns to targets. -/
def StmtForm.isAssignment : StmtForm → Bool
  | .assign _ _ => true
  | .augment _ _ _ => true
  | .annotate _ _ _ _ => true
  | _ => false

/-- Whether a form defines a function. -/
def StmtForm.isFunction : StmtForm → Bool
  | .function _ _ _ _ _ _ => true
  | _ => false

/-- Whether a form neither assigns to targets nor defines a function. -/
def StmtForm.isOther (form : StmtForm) : Bool := !form.isAssignment && !form.isFunction

lemma all_eq (stmt : Stmt) : stmt.all = stmt :: stmt.form.inside := by
  rcases stmt with ⟨span, form⟩
  cases form <;> simp only [Stmt.all, Stmt.form, StmtForm.inside]

lemma allIn_eq (statements : List Stmt) : allIn statements = statements.flatMap Stmt.all := by
  induction statements with
  | nil => rw [allIn, List.flatMap_nil]
  | cons stmt rest ih => rw [allIn, ih, List.flatMap_cons]

lemma mem_allIn {stmt : Stmt} {statements : List Stmt} (h : stmt ∈ statements) :
    stmt ∈ allIn statements := by
  rw [allIn_eq]
  exact List.mem_flatMap.mpr ⟨stmt, h, by rw [all_eq]; exact List.mem_cons_self⟩

lemma allInHandlers_eq (handlers : List Handler) :
    allInHandlers handlers = handlers.flatMap fun handler => allIn handler.body := by
  induction handlers with
  | nil => rw [allInHandlers, List.flatMap_nil]
  | cons handler rest ih =>
    obtain ⟨span, type, name, body⟩ := handler
    rw [allInHandlers, ih, List.flatMap_cons, Handler.body]

lemma allInCases_eq (cases : List MatchCase) :
    allInCases cases = cases.flatMap fun case => allIn case.body := by
  induction cases with
  | nil => rw [allInCases, List.flatMap_nil]
  | cons case rest ih =>
    obtain ⟨pattern, guard, body⟩ := case
    rw [allInCases, ih, List.flatMap_cons, MatchCase.body]

/-- A property holds of some statements and of all statements inside them. -/
def HoldsIn (P : Stmt → Prop) (statements : List Stmt) : Prop := ∀ stmt ∈ allIn statements, P stmt

/-- A property holds of a form, wherever it stands, and another one of all statements inside it. -/
def HoldsInForm (Q P : Stmt → Prop) (form : StmtForm) : Prop :=
  (∀ span, Q (.mk span form)) ∧ ∀ stmt ∈ form.inside, P stmt

/-- A property holds of a statement, and another one of all statements inside it. -/
def HoldsAt (Q P : Stmt → Prop) (stmt : Stmt) : Prop :=
  Q stmt ∧ ∀ inner ∈ stmt.form.inside, P inner

section
variable {Q P : Stmt → Prop}

lemma holdsIn_nil : HoldsIn P [] := by
  intro _ hmem
  rw [allIn] at hmem
  cases hmem

lemma holdsIn_of_forall {statements : List Stmt} (h : ∀ stmt ∈ statements, HoldsAt P P stmt) :
    HoldsIn P statements := by
  intro stmt hmem
  rw [allIn_eq] at hmem
  obtain ⟨outer, houter, hmem⟩ := List.mem_flatMap.mp hmem
  rw [all_eq] at hmem
  rcases List.mem_cons.mp hmem with rfl | hmem
  · exact (h _ houter).1
  · exact (h outer houter).2 stmt hmem

lemma holdsIn_optional {found : Option (List Stmt)} (h : ∀ part ∈ found, HoldsIn P part) :
    HoldsIn P (found.getD []) := by
  cases found with
  | none => exact holdsIn_nil
  | some part => exact h part rfl

lemma HoldsInForm.holdsAt {form : StmtForm} (h : HoldsInForm Q P form) (span : Span) :
    HoldsAt Q P (.mk span form) := ⟨h.1 span, h.2⟩

lemma holdsInForm_of_inside_eq_nil {form : StmtForm} (h : ∀ span, Q (.mk span form))
    (hinside : form.inside = []) : HoldsInForm Q P form :=
  ⟨h, by rw [hinside]; exact fun _ hmem => by cases hmem⟩

end

namespace Grammar

variable {context : Context} {sub : Grammar} {Q P : Stmt → Prop}

/-! ## Rules of statements -/

/-- A property holds of the assignments and functions that are found and of whatever is neither, and
another one of all statements in blocks; so they do of the statements that are found. -/
structure FindsHolding (context : Context) (Q P : Stmt → Prop) (sub : Grammar) : Prop where
  other : ∀ span form, form.isOther = true → Q (.mk span form)
  assignment : Yields context (assignment sub) (HoldsInForm Q P)
  function : ∀ decoration, Yields context (undecoratedFunction sub decoration) Q
  block : Yields context (sub .block) (HoldsIn P)
  elifBranch : Yields context (sub .elifBranch) (HoldsIn P [·])

namespace FindsHolding

variable (h : FindsHolding context Q P sub)
include h

lemma plain {form : StmtForm} (hform : form.isOther = true) (hinside : form.inside = []) :
    HoldsInForm Q P form :=
  holdsInForm_of_inside_eq_nil (fun span => h.other span form hform) hinside

omit h in
lemma statement {r : Reader StmtForm} (hr : Yields context r (HoldsInForm Q P)) :
    Yields context (Reader.statement r) (HoldsAt Q P) :=
  .statement <| hr.weaken fun _ hform span => hform.holdsAt span

lemma wordStatement {keyword : Keyword} {form : StmtForm} (hform : form.isOther = true)
    (hinside : form.inside = []) :
    Yields context (wordStatement keyword form) (HoldsInForm Q P) :=
  .behind fun _ => .pure (h.plain hform hinside)

lemma importFromStatement : Yields context importFromStatement (HoldsInForm Q P) := by
  refine .orElse ?_ ?_
  · exact .behind fun _ => .behind fun _ => .behind fun _ => .behind fun _ => .behind fun _ =>
      .pure (h.plain rfl rfl)
  · exact .behind fun _ => .behind fun _ => .behind fun _ => .behind fun _ =>
      .pure (h.plain rfl rfl)

lemma raiseStatement : Yields context (raiseStatement sub) (HoldsInForm Q P) := by
  refine .behind fun _ => .orElse ?_ (.pure (h.plain rfl rfl))
  exact .behind fun _ => .behind fun _ => .pure (h.plain rfl rfl)

lemma deletion : Yields context (deletion sub) (HoldsInForm Q P) := by
  refine .orElse ?_ .faults
  exact .behind fun _ => .behind fun _ => .behind fun _ => .pure (h.plain rfl rfl)

lemma simpleStatement : Yields context (simpleStatement sub) (HoldsAt Q P) := by
  refine statement <| h.assignment.orElse ?_
  refine .orElse (.behind fun _ => .pure (h.plain rfl rfl)) ?_
  refine .orElse (.behind fun _ => .behind fun _ => .pure (h.plain rfl rfl)) ?_
  refine .orElse (.behind fun _ => .behind fun _ => .pure (h.plain rfl rfl)) ?_
  refine h.importFromStatement.orElse <| h.raiseStatement.orElse ?_
  refine (h.wordStatement rfl rfl).orElse <| h.deletion.orElse ?_
  refine .orElse (.behind fun _ => .pure (h.plain rfl rfl)) ?_
  refine .orElse (.behind fun _ => .behind fun _ => .behind fun _ => .pure (h.plain rfl rfl)) ?_
  refine (h.wordStatement rfl rfl).orElse <| (h.wordStatement rfl rfl).orElse ?_
  exact .orElse (.behind fun _ => .pure (h.plain rfl rfl))
    (.behind fun _ => .pure (h.plain rfl rfl))

lemma simpleStatements : Yields context (simpleStatements sub) (∀ stmt ∈ ·, HoldsAt Q P stmt) :=
  h.simpleStatement.separated.bind fun _ hfound => .behind fun _ => .behind fun _ => .pure hfound

/-! ## Rules of blocks -/

lemma blockBehind : Yields context (blockBehind sub) (HoldsIn P) := .behind fun _ => h.block

lemma elseBlock : Yields context (elseBlock sub) (HoldsIn P) :=
  .orElse .faults <| .behind fun _ => .behind fun _ => h.block

lemma otherwise : Yields context (otherwise sub) (HoldsIn P) :=
  h.elseBlock.optional.bind fun _ hfound => .pure (holdsIn_optional hfound)

/-- A form of two blocks. -/
lemma form_two {form : StmtForm} {body rest : List Stmt} (hform : form.isOther = true)
    (hinside : form.inside = allIn body ++ allIn rest) (hbody : HoldsIn P body)
    (hrest : HoldsIn P rest) : HoldsInForm Q P form := by
  refine ⟨fun span => h.other span form hform, fun stmt hmem => ?_⟩
  rw [hinside] at hmem
  exact (List.mem_append.mp hmem).elim (hbody stmt) (hrest stmt)

/-- A form of one block. -/
lemma form_one {form : StmtForm} {body : List Stmt} (hform : form.isOther = true)
    (hinside : form.inside = allIn body) (hbody : HoldsIn P body) : HoldsInForm Q P form :=
  ⟨fun span => h.other span form hform, fun stmt hmem => hbody stmt (hinside ▸ hmem)⟩

lemma branch (keyword : Keyword) (shown : String) :
    Yields context (branch sub keyword shown) (HoldsAt Q P) := by
  refine .orElse .faults <| .orElse (statement ?_) (statement ?_)
  · exact .behind fun _ => .behind fun _ => h.blockBehind.bind fun body hbody =>
      h.elifBranch.bind fun next hnext => .pure (h.form_two rfl rfl hbody hnext)
  · exact .behind fun _ => .behind fun _ => h.blockBehind.bind fun body hbody =>
      h.otherwise.bind fun rest hrest => .pure (h.form_two rfl rfl hbody hrest)

lemma whileLoop : Yields context (whileLoop sub) (HoldsAt Q P) := by
  refine .orElse .faults <| statement ?_
  exact .behind fun _ => .behind fun _ => h.blockBehind.bind fun body hbody =>
    h.otherwise.bind fun rest hrest => .pure (h.form_two rfl rfl hbody hrest)

lemma forLoop : Yields context (forLoop sub) (HoldsAt Q P) := by
  refine .behind fun start => .settle ?_
  have htail (head : Bool × Expr) :
      Yields context (forLoop.loopBehind sub start head) (HoldsAt Q P) :=
    .behind fun _ => h.blockBehind.bind fun body hbody => h.otherwise.bind fun rest hrest =>
      .behind fun span => .pure ((h.form_two rfl rfl hbody hrest).holdsAt span)
  refine .orElse .faults <| .orElse (.committed .any fun head _ => htail head) <|
    .orElse (.committed .any fun head _ => htail head) .faults

lemma withForm (isAsync : Bool) : Yields context (withForm sub isAsync) (HoldsInForm Q P) := by
  have hblock (managers : List Manager) :
      Yields context (do return .withBlock isAsync managers (← Grammar.blockBehind sub))
        (HoldsInForm Q P) :=
    h.blockBehind.bind fun body hbody => .pure (h.form_one rfl rfl hbody)
  refine .orElse ?_ ?_
  · exact .perhaps fun _ => .behind fun _ => .behind fun _ => .behind fun managers =>
      .behind fun _ => hblock managers
  · exact .perhaps fun _ => .behind fun _ => .behind fun managers => hblock managers

lemma withStatement : Yields context (withStatement sub) (HoldsAt Q P) :=
  .orElse .faults <| .orElse (statement (.orElse (h.withForm false) (h.withForm true))) .faults

omit h in
lemma handlerOf {r : Reader (Option Expr × Option String × List Stmt)}
    (hr : Yields context r fun found => HoldsIn P found.2.2) :
    Yields context (handlerOf r) (HoldsIn P ·.body) :=
  hr.spanned.bind fun _ hfound => .pure hfound.2

lemma typedHandler (isGroup : Bool) :
    Yields context (typedHandler sub isGroup) (HoldsIn P ·.body) := by
  refine handlerOf <| .behind fun _ => .perhaps fun _ => .behind fun _ => .behind fun _ => ?_
  exact h.blockBehind.bind fun _ hbody => .pure hbody

lemma plainHandler : Yields context (plainHandler sub) (HoldsIn P ·.body) := by
  refine .orElse .faults <| (h.typedHandler false).orElse <| .orElse (handlerOf ?_) .faults
  exact .behind fun _ => h.blockBehind.bind fun _ hbody => .pure hbody

lemma groupHandler : Yields context (groupHandler sub) (HoldsIn P ·.body) :=
  .orElse .faults <| (h.typedHandler true).orElse .faults

lemma finallyBlock : Yields context (finallyBlock sub) (HoldsIn P) :=
  .orElse .faults <| .behind fun _ => .behind fun _ => h.block

lemma tried : Yields context (tried sub) (HoldsIn P) := .behind fun _ => .behind fun _ => h.block

lemma trying {isGroup : Bool} {body rest last : List Stmt} {handlers : List Handler}
    (hbody : HoldsIn P body) (hhandlers : ∀ handler ∈ handlers, HoldsIn P handler.body)
    (hrest : HoldsIn P rest) (hlast : HoldsIn P last) :
    HoldsInForm Q P (.trying isGroup body handlers rest last) := by
  refine ⟨fun span => h.other span _ rfl, fun stmt hmem => ?_⟩
  rw [StmtForm.inside, allInHandlers_eq] at hmem
  simp only [List.mem_append, List.mem_flatMap] at hmem
  rcases hmem with ((hmem | ⟨handler, hhandler, hmem⟩) | hmem) | hmem
  · exact hbody stmt hmem
  · exact hhandlers handler hhandler stmt hmem
  · exact hrest stmt hmem
  · exact hlast stmt hmem

lemma handled {isGroup : Bool} {handler : Reader Handler}
    (hhandler : Yields context handler (HoldsIn P ·.body)) :
    Yields context (handled sub isGroup handler) (HoldsInForm Q P) :=
  h.tried.bind fun _ hbody => hhandler.many1.bind fun _ hhandlers =>
    h.otherwise.bind fun _ hrest => h.finallyBlock.optional.bind fun _ hlast =>
      .pure (h.trying hbody hhandlers hrest (holdsIn_optional hlast))

lemma tryStatement : Yields context (tryStatement sub) (HoldsAt Q P) := by
  refine .orElse .faults <| statement <| .orElse ?_ <|
    (h.handled h.plainHandler).orElse (h.handled h.groupHandler)
  exact h.tried.bind fun _ hbody => h.finallyBlock.bind fun _ hlast =>
    .pure (h.trying hbody (fun _ hmem => by cases hmem) holdsIn_nil hlast)

lemma matchCase : Yields context (matchCase sub) (HoldsIn P ·.body) :=
  .orElse .faults <| .behind fun _ => .behind fun _ => .behind fun _ =>
    h.blockBehind.bind fun _ hbody => .pure hbody

lemma matchStatement : Yields context (matchStatement sub) (HoldsAt Q P) := by
  refine .orElse (statement ?_) .faults
  refine .behind fun _ => .behind fun _ => .behind fun _ => .behind fun _ => .behind fun _ => ?_
  refine h.matchCase.many1.bind fun cases hcases => .behind fun _ => .pure ?_
  refine ⟨fun span => h.other span _ rfl, fun stmt hmem => ?_⟩
  rw [StmtForm.inside, allInCases_eq] at hmem
  obtain ⟨case, hcase, hmem⟩ := List.mem_flatMap.mp hmem
  exact hcases case hcase stmt hmem

lemma functionForm (isAsync : Bool) (decoration : List Expr) :
    Yields context (functionForm sub isAsync decoration) fun form => ∀ stmt ∈ form.inside, P stmt := by
  unfold Grammar.functionForm
  refine .perhaps fun _ => .behind fun _ => .behind fun _ => .behind fun _ => .behind fun _ => ?_
  refine .behind fun _ => .behind fun _ => .behind fun _ => ?_
  exact h.block.bind fun body hbody => .pure hbody

lemma undecoratedFunction (decoration : List Expr) :
    Yields context (undecoratedFunction sub decoration) (HoldsAt Q P) := by
  have hinside : Yields context (Grammar.undecoratedFunction sub decoration)
      fun stmt => ∀ inner ∈ stmt.form.inside, P inner := by
    refine .orElse .faults <| .statement <| .weaken (P := fun form => ∀ stmt ∈ form.inside, P stmt) ?_
      fun _ hform _ => hform
    exact (h.functionForm false decoration).orElse (h.functionForm true decoration)
  exact (h.function decoration).and hinside

lemma functionDefinition : Yields context (functionDefinition sub) (HoldsAt Q P) :=
  .orElse (.behind h.undecoratedFunction) (h.undecoratedFunction [])

lemma undecoratedClass (decoration : List Expr) :
    Yields context (undecoratedClass sub decoration) (HoldsAt Q P) := by
  refine .orElse .faults <| statement ?_
  exact .behind fun _ => .behind fun _ => .behind fun _ =>
    h.blockBehind.bind fun body hbody => .pure (h.form_one rfl rfl hbody)

lemma classDefinition : Yields context (classDefinition sub) (HoldsAt Q P) :=
  .orElse (.behind h.undecoratedClass) (h.undecoratedClass [])

omit h in
lemma behindWord {α : Type} {words : List Token.Kind} {r : Reader α} {Q : α → Prop}
    (hr : Yields context r Q) : Yields context (behindWord words r) Q := by
  refine .behind fun token => ?_
  split
  · exact hr
  · exact .nothing

lemma compoundStatement : Yields context (compoundStatement sub) (HoldsAt Q P) :=
  (behindWord h.functionDefinition).orElse <| (behindWord (h.branch _ _)).orElse <|
    (behindWord h.classDefinition).orElse <| (behindWord h.withStatement).orElse <|
    (behindWord h.forLoop).orElse <| (behindWord h.tryStatement).orElse <|
    (behindWord h.whileLoop).orElse h.matchStatement

lemma statements : Yields context (statements sub) (∀ stmt ∈ ·, HoldsAt Q P stmt) := by
  refine (Yields.many1 (.orElse ?_ h.simpleStatements)).bind fun parts hparts =>
    .pure fun stmt hmem => ?_
  · exact h.compoundStatement.bind fun _ hstmt => .pure (List.forall_mem_singleton.mpr hstmt)
  · obtain ⟨part, hpart, hmem⟩ := List.mem_flatten.mp hmem
    exact hparts part hpart stmt hmem

lemma blockRule : Yields context (blockRule sub) (∀ stmt ∈ ·, HoldsAt Q P stmt) := by
  refine .orElse ?_ <| h.simpleStatements.orElse .faults
  exact .behind fun _ => .behind fun _ => h.statements.bind fun _ hfound => .behind fun _ =>
    .pure hfound

lemma program : Yields context (program sub) (∀ stmt ∈ ·, HoldsAt Q P stmt) := by
  refine h.statements.optional.bind fun found hfound => .behind fun _ => .pure fun stmt hmem => ?_
  cases found with
  | none => cases hmem
  | some part => exact hfound part rfl stmt hmem

end FindsHolding

/-- A property holds of all statements that are found if it does of the assignments and of the
functions. -/
lemma findsHolding_forgetful (hother : ∀ span form, form.isOther = true → P (.mk span form))
    (hassignment : ∀ steps, Yields context (assignment (forgetful steps)) (HoldsInForm P P))
    (hfunction : ∀ steps decoration,
      Yields context (undecoratedFunction (forgetful steps) decoration) P)
    (steps : Nat) : FindsHolding context P P (forgetful steps) := by
  induction steps with
  | zero => exact ⟨hother, hassignment 0, hfunction 0, .nothing, .nothing⟩
  | succ steps ih =>
    exact ⟨hother, hassignment (steps + 1), hfunction (steps + 1),
      ih.blockRule.weaken fun _ => holdsIn_of_forall,
      (ih.branch .elif_ "elif").weaken fun _ hstmt =>
        holdsIn_of_forall (List.forall_mem_singleton.mpr hstmt)⟩

lemma yields_undecoratedFunction (decoration : List Expr) :
    Yields context (undecoratedFunction sub decoration) fun stmt => stmt.form.isFunction = true := by
  have hform (isAsync : Bool) : Yields context (functionForm sub isAsync decoration)
      fun form => form.isFunction = true := by
    unfold functionForm
    refine .perhaps fun _ => .behind fun _ => .behind fun _ => .behind fun _ => .behind fun _ => ?_
    exact .behind fun _ => .behind fun _ => .behind fun _ => .behind fun _ => .pure rfl
  refine .orElse .faults <| .statement <| .weaken (P := fun form => form.isFunction = true) ?_
    fun _ hfound _ => hfound
  exact (hform false).orElse (hform true)

/-! ## Targets of assignments -/

lemma yields_annotationOf {target : Expr} {simple : Bool} {Q : StmtForm → Prop}
    (hQ : ∀ hint value, Q (.annotate target hint value simple)) :
    Yields context (annotationOf sub target simple) Q :=
  .behind fun _ => .behind fun _ => .behind fun _ => .pure (hQ _ _)

end Grammar

/-- What a statement assigns to, before it is taken apart. -/
def Stmt.wholeTargets : Stmt → List Expr
  | .mk _ (.assign targets _) => targets
  | .mk _ (.augment target _ _) => [target]
  | .mk _ (.annotate target _ _ _) => [target]
  | _ => []

lemma wholeTargets_eq_nil {span : Span} {form : StmtForm} (h : form.isAssignment = false) :
    (Stmt.mk span form).wholeTargets = [] := by
  cases form <;> first
    | rfl
    | cases h

/-- All targets of a statement are anchored. -/
def Context.IsAnchoredIn (context : Context) (stmt : Stmt) : Prop :=
  ∀ target ∈ stmt.wholeTargets, context.IsAnchored target

lemma isAnchoredIn_of_not_isAssignment {context : Context} {span : Span} {form : StmtForm}
    (h : form.isAssignment = false) : context.IsAnchoredIn (.mk span form) := by
  rw [Context.IsAnchoredIn, wholeTargets_eq_nil h]
  exact List.forall_mem_nil _

lemma isAssignment_eq_false {form : StmtForm} (h : form.isFunction = true) :
    form.isAssignment = false := by
  cases form <;> first
    | rfl
    | cases h

namespace Grammar

variable {context : Context} {sub : Grammar} {P : Stmt → Prop}

lemma yields_assignment (h : FindsAnchored context sub) :
    Yields context (assignment sub) (HoldsInForm context.IsAnchoredIn P) := by
  have hannotate {target hint : Expr} {value : Option Expr} {simple : Bool}
      (htarget : context.IsAnchored target) :
      HoldsInForm context.IsAnchoredIn P (.annotate target hint value simple) :=
    holdsInForm_of_inside_eq_nil (fun _ => List.forall_mem_singleton.mpr htarget) rfl
  refine .settle <| .orElse (.unsettled ?_) <| .orElse (.unsettled ?_) <| .orElse (.unsettled ?_) <|
    .orElse (.committed (P := fun found => context.IsAnchored found.1) ?_ ?_) .faults
  · exact yields_nameExpression.bind fun _ htarget => yields_annotationOf fun _ _ =>
      hannotate htarget
  · exact (yields_annotatedTarget h).bind fun _ htarget => yields_annotationOf fun _ _ =>
      hannotate htarget
  · have htarget : Yields context (assignedTarget sub) context.IsAnchored :=
      (yields_starTargets h).bind fun _ hfound => .behind fun _ => .pure hfound
    refine htarget.many1.bind fun targets htargets => .behind fun _ => .behind fun _ => .pure ?_
    exact holdsInForm_of_inside_eq_nil (fun _ => htargets) rfl
  · exact h.singleTarget.bind fun _ htarget => .behind fun _ => .pure htarget
  · rintro ⟨target, operator⟩ htarget
    refine .behind fun _ => .pure ?_
    exact holdsInForm_of_inside_eq_nil (fun _ => List.forall_mem_singleton.mpr htarget) rfl

end Grammar

/-- What holds behind a reader that starts at the first token holds of what it reads from a whole
text. -/
lemma Triple.of_readAll {α : Type} {r : Reader α} {source : TokenSequence} {inField : Bool}
    {I : Nat → Prop} {Q : α → Prop} {value : α}
    (h : Triple ⟨source, false, inField⟩ I r fun a _ => Q a) (hfirst : I 0)
    (hread : readAll r source inField = .ok value) : Q value := by
  obtain ⟨behind, hfound⟩ := readAll_eq_ok_iff.mp hread
  exact h _ _ _ _ _ hfirst (Prod.ext hfound rfl)

/-- **Every part of every target of a program starts at a token.** -/
theorem isAnchoredIn_of_read {text : List Char} {statements : List Stmt}
    (h : read text = .ok statements) :
    ∀ stmt ∈ allIn statements, Context.IsAnchoredIn ⟨.ofText text, false, false⟩ stmt := by
  -- a text is read as the grammar without memory reads it
  have hread := (read_eq_ok_iff (Nat.le_refl _) statements).mp h
  have hholds := Grammar.findsHolding_forgetful
    (P := Context.IsAnchoredIn ⟨.ofText text, false, false⟩) (fun span form hform => ?_)
    (fun steps => Grammar.yields_assignment (Grammar.findsAnchored_forgetful _ steps))
    (fun steps decoration => ?_) (Grammar.stepsFor text)
  · exact holdsIn_of_forall (Triple.of_readAll hholds.program trivial hread).2
  · exact isAnchoredIn_of_not_isAssignment (by simp_all [StmtForm.isOther])
  · refine (Grammar.yields_undecoratedFunction decoration).weaken fun stmt hform => ?_
    obtain ⟨span, form⟩ := stmt
    exact isAnchoredIn_of_not_isAssignment (isAssignment_eq_false hform)

end AdjointSynthesis.Code

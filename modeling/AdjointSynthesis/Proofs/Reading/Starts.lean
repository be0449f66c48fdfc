import AdjointSynthesis.Proofs.Reading.Functions
import AdjointSynthesis.Proofs.Reading.Spans

/-!
# Where statements start

A statement starts with a word: no reader of statements finds anything at a token of layout.  A
decorated function starts behind its decorators, so the word is not always the first one that is read.

* `StartsBehind`: a reader finds statements that start with words from its position on.
* `Grammar.startsBehind_simpleStatement`, `Grammar.startsBehind_compoundStatement`: so do the readers
  of statements.
* `startsFrom_of_read`: the statements in the block of a function that a program holds start with
  words.
-/

namespace AdjointSynthesis.Code

open Reader

lemma Token.kind_mem_layout {token : Token} (h : token.isLayout = true) :
    token.kind ∈ Token.Kind.layout := by
  unfold Token.isLayout at h
  split at h <;> simp_all [Token.Kind.layout]

/-- A statement starts with the word at a position. -/
def Context.StartsAt (context : Context) (i : Nat) (stmt : Stmt) : Prop :=
  ∃ token, context.source.tokens[i]? = some token ∧ token.isLayout = false ∧
    stmt.span.start = token.span.start

/-- A statement starts with a word from an origin on. -/
def Context.StartsFrom (context : Context) (origin : Nat) (stmt : Stmt) : Prop :=
  ∃ i, origin ≤ i ∧ context.StartsAt i stmt

/-- A reader finds statements that start where the reader does. -/
def StartsHere (context : Context) (reader : Reader Stmt) : Prop :=
  ∀ d, Triple context (· = d) reader fun stmt _ =>
    ∃ token, context.source.tokens[d]? = some token ∧ stmt.span.start = token.span.start

/-- A reader finds statements that start with words from its position on. -/
def StartsBehind (context : Context) (reader : Reader Stmt) : Prop :=
  ∀ origin, Triple context (context.From origin) reader fun stmt _ =>
    context.StartsFrom origin stmt

section
variable {α : Type} {context : Context} {r r' : Reader Stmt} {origin d : Nat}

lemma Context.StartsFrom.mono {stmt : Stmt} (h : context.StartsFrom origin stmt) (hle : d ≤ origin) :
    context.StartsFrom d stmt := by
  obtain ⟨i, hi, hstart⟩ := h
  exact ⟨i, by omega, hstart⟩

namespace StartsHere

lemma statement {r : Reader StmtForm} : StartsHere context (Reader.statement r) := by
  intro d
  refine (triple_statement (Q := fun _ _ => True) .any).weaken (fun _ hi => hi) ?_
  rintro stmt next ⟨token, htoken, hspan, -⟩
  exact ⟨token, htoken, by rw [hspan]⟩

lemma orElse (h : StartsHere context r) (h' : StartsHere context r') :
    StartsHere context (r <|> r') := fun d => Triple.orElse (h d) (h' d)

lemma faults {alternatives : List (Reader Unit)} :
    StartsHere context (Reader.faults alternatives) := fun _ => Triple.faults

end StartsHere

/-- What is found where a reader starts is found at a word. -/
lemma triple_of_starts {α : Type} {r : Reader α} {first : Token.Kind → Bool}
    [hr : Starts context r first] (hfirst : Token.Kind.layout.all (!first ·) = true) :
    Triple context (· = d) r fun _ _ =>
      ∀ token, context.source.tokens[d]? = some token → token.isLayout = false := by
  rintro _ progress value next after rfl hfound token htoken
  by_contra hlayout
  have hkind := Token.kind_mem_layout (Bool.not_eq_false _ ▸ hlayout)
  have hmeets : context.Meets Token.Kind.layout _ :=
    ⟨token.word, by rw [Context.wordAt, htoken, Option.map_some], hkind⟩
  have hmisses := hmeets.misses (r := r) hfirst progress
  rw [hfound] at hmisses
  cases hmisses

/-- A reader that starts with words only finds statements that start with words. -/
lemma StartsHere.startsAt {first : Token.Kind → Bool} [Starts context r first]
    (h : StartsHere context r) (hfirst : Token.Kind.layout.all (!first ·) = true) :
    Triple context (· = d) r fun stmt _ => context.StartsAt d stmt := by
  refine (Triple.and (h d) (triple_of_starts hfirst)).weaken (fun _ hi => hi) ?_
  rintro stmt next ⟨⟨token, htoken, hstart⟩, hword⟩
  exact ⟨token, htoken, hword token htoken, hstart⟩

namespace StartsBehind

lemma of_at (h : ∀ d, Triple context (· = d) r fun stmt _ => context.StartsAt d stmt) :
    StartsBehind context r := by
  refine fun origin => .of_forall fun d hd => (h d).weaken (fun _ hi => hi) ?_
  exact fun stmt _ hstart => ⟨d, hd.1, hstart⟩

lemma of_here {first : Token.Kind → Bool} [Starts context r first] (h : StartsHere context r)
    (hfirst : Token.Kind.layout.all (!first ·) = true) : StartsBehind context r :=
  of_at fun _ => h.startsAt hfirst

lemma orElse (h : StartsBehind context r) (h' : StartsBehind context r') :
    StartsBehind context (r <|> r') := fun origin => Triple.orElse (h origin) (h' origin)

lemma faults {alternatives : List (Reader Unit)} :
    StartsBehind context (Reader.faults alternatives) := fun _ => Triple.faults

/-- What comes first makes no difference if it does not go back. -/
lemma past [Compared α] {strict : Bool} {first : Reader α} {f : α → Reader Stmt}
    [h : Reader.Agree (itself context) true strict first first]
    (hf : ∀ a, StartsBehind context (f a)) : StartsBehind context (first >>= f) :=
  fun origin => Triple.bind (yields_of_agree h) fun a =>
    (hf a origin).weaken (fun _ hfound => hfound.1) fun _ _ hfound => hfound

/-- Some words are no layout, so a reader behind one of them starts with a word. -/
lemma behindKeyword {words : List Token.Kind} (h : StartsHere context r)
    (hwords : Token.Kind.layout.all (!words.contains ·) = true) :
    StartsBehind context (Grammar.behindWord words r) := by
  refine of_here (fun d => Triple.peek.bind fun token => ?_) hwords
  split
  · exact (h d).weaken (fun _ hi => hi.1) fun _ _ hfound => hfound
  · exact .nothing

lemma behindWord {words : List Token.Kind} (h : StartsBehind context r) :
    StartsBehind context (Grammar.behindWord words r) := by
  refine fun origin => Triple.peek.bind fun token => ?_
  split
  · exact (h origin).weaken (fun _ hi => hi.1) fun _ _ hfound => hfound
  · exact .nothing

/-- What does not go back finds statements that start behind each origin. -/
lemma yields (h : StartsBehind context r)
    (hback : Yields context r (fun _ => True) (context.From origin)) :
    Yields context r (context.StartsFrom origin) (context.From origin) :=
  (Triple.and hback (h origin)).weaken (fun _ hi => hi) fun _ _ hfound => ⟨hfound.1.1, hfound.2⟩

end StartsBehind

end

namespace Grammar

variable {c : Context} {sub : Grammar}

/-! ## Statements with blocks -/

lemma startsHere_forLoop : StartsHere c (forLoop sub) := by
  intro d
  have htail (start : Place) (head : Bool × Expr) : Triple c (fun _ => True)
      (forLoop.loopBehind sub start head) fun stmt _ => stmt.span.start = start := by
    refine .behind fun _ => .behind fun _ => .behind fun _ => triple_spanFrom.bind fun span => .pure ?_
    rintro next ⟨-, rfl⟩
    rfl
  have hhere : Triple c (· = d) Reader.here fun start _ =>
      ∃ token, c.source.tokens[d]? = some token ∧ token.span.start = start := by
    refine Triple.peek.bind fun token => .pure ?_
    rintro _ ⟨rfl, htoken⟩
    exact ⟨token, htoken, rfl⟩
  refine hhere.bind fun start => ?_
  refine (Triple.of_and (I := fun _ => True) (p := ∃ token, c.source.tokens[d]? = some token ∧
    token.span.start = start) fun ⟨token, htoken, hstart⟩ => ?_).weaken
    (fun _ hfound => ⟨trivial, hfound⟩) fun _ _ hfound => hfound
  have hloop (a : Bool × Expr) : Triple c (fun _ => True) (forLoop.loopBehind sub start a)
      fun stmt _ => ∃ token, c.source.tokens[d]? = some token ∧
        stmt.span.start = token.span.start :=
    (htail start a).weaken (fun _ hi => hi) fun _ _ hfound =>
      ⟨token, htoken, hfound.trans hstart.symm⟩
  exact Triple.settle <| .orElse .faults <| .orElse (.committed hloop) <|
    .orElse (.committed hloop) .faults

instance starts_functionForm {isAsync : Bool} {decoration : List Expr} :
    Starts c (functionForm sub isAsync decoration)
      fun kind => kind == .keyword .def_ || kind == .keyword .async_ := by
  cases isAsync
  · have h : Starts c (functionForm sub false decoration) (· == .keyword .def_) := by
      unfold functionForm
      rw [if_neg Bool.false_ne_true]
      infer_instance
    exact Starts.weaken h fun kind hkind => (Bool.or_eq_false_iff.mp hkind).1
  · have h : Starts c (functionForm sub true decoration) (· == .keyword .async_) := by
      unfold functionForm
      rw [if_pos rfl]
      infer_instance
    exact Starts.weaken h fun kind hkind => (Bool.or_eq_false_iff.mp hkind).2

lemma startsBehind_undecoratedFunction (decoration : List Expr) :
    StartsBehind c (undecoratedFunction sub decoration) :=
  .orElse .faults (.of_here .statement rfl)

lemma startsBehind_undecoratedClass (decoration : List Expr) :
    StartsBehind c (undecoratedClass sub decoration) :=
  .orElse .faults (.of_here .statement rfl)

section
variable [hc : c.IsPlain] [hready : Ready (itself c) sub sub]
include hready

lemma startsBehind_compoundStatement [sub.Settled c] : StartsBehind c (compoundStatement sub) := by
  have hfair := fair_itself hc.plain
  refine .orElse (.behindWord ?_) <| .orElse (.behindKeyword ?_ rfl) <|
    .orElse (.behindWord ?_) <| .orElse (.behindKeyword ?_ rfl) <|
    .orElse (.behindKeyword startsHere_forLoop rfl) <| .orElse (.behindKeyword ?_ rfl) <|
    .orElse (.behindKeyword ?_ rfl) (.of_here (.orElse .statement .faults) rfl)
  · exact .orElse (.past startsBehind_undecoratedFunction) (startsBehind_undecoratedFunction [])
  · exact .orElse .faults (.orElse .statement .statement)
  · exact .orElse (.past startsBehind_undecoratedClass) (startsBehind_undecoratedClass [])
  · exact .orElse .faults (.orElse .statement .faults)
  · exact .orElse .faults .statement
  · exact .orElse .faults .statement

/-! ## Blocks -/

omit hready in
lemma startsAt_simpleStatement [sub.Settled c] (d : Nat) :
    Triple c (· = d) (simpleStatement sub) fun stmt _ => c.StartsAt d stmt := by
  have hstarts : StartsHere c (simpleStatement sub) := .statement
  unfold simpleStatement returnStatement importStatement raiseStatement wordStatement
    assertStatement declaredNames at hstarts ⊢
  exact hstarts.startsAt rfl

omit hready in
lemma startsBehind_simpleStatement [sub.Settled c] : StartsBehind c (simpleStatement sub) :=
  .of_at startsAt_simpleStatement

lemma yields_startsFrom_blockRule [sub.Settled c] (origin : Nat) : Yields c (blockRule sub)
    (∀ stmt ∈ ·, c.StartsFrom origin stmt) (c.From origin) :=
  yields_blockRule (startsBehind_simpleStatement.yields (yields_simpleStatement hc.plain))
    (startsBehind_compoundStatement.yields (yields_compoundStatement hc.plain))

end

/-! ## Functions -/

variable {text : List Char} {steps : Nat}

/-- The statements in the block of a function start with words, if there are enough steps. -/
lemma yields_startsFrom_function
    (hsteps : 16 * weightFrom (TokenSequence.ofText text).tokens 0 + 9 ≤ steps)
    (decoration : List Expr) : Yields ⟨.ofText text, false, false⟩
      (undecoratedFunction (forgetful (steps + 1)) decoration)
      (∀ inner ∈ ·.form.functionBody, Context.StartsFrom ⟨.ofText text, false, false⟩ 0 inner) := by
  have hplain : Context.IsPlain ⟨.ofText text, false, false⟩ := ⟨rfl⟩
  have hsettled : (forgetful steps).Settled ⟨.ofText text, false, false⟩ := settled_forgetful hsteps
  have hready : Ready (itself ⟨.ofText text, false, false⟩) (forgetful steps) (forgetful steps) :=
    ready_forgetful rfl steps
  refine .orElse .faults ?_
  refine (Triple.of_forall (Q := fun stmt _ => ∀ inner ∈ stmt.form.functionBody,
    Context.StartsFrom ⟨.ofText text, false, false⟩ 0 inner) fun d _ => ?_).weaken
    (fun _ hi => hi) fun _ _ hfound => ⟨trivial, hfound⟩
  have hblock : Yields ⟨.ofText text, false, false⟩ (blockRule (forgetful steps))
      (∀ stmt ∈ ·, Context.StartsFrom _ 0 stmt) (Context.From _ (d + 1)) :=
    (yields_startsFrom_blockRule (d + 1)).weaken fun _ hfound stmt hmem =>
      (hfound stmt hmem).mono (Nat.zero_le _)
  refine (triple_statement (.orElse (triple_functionForm rfl false decoration hblock)
    (triple_functionForm rfl true decoration hblock))).weaken (fun _ hi => hi) ?_
  rintro stmt next ⟨-, -, -, -, -, -, hbody⟩
  exact hbody

end Grammar

lemma functionBody_eq_nil {form : StmtForm} (h : form.isFunction = false) :
    form.functionBody = [] := by
  cases form <;> first
    | rfl
    | cases h

/-- **The statements in the block of a function that a program holds start with words.** -/
theorem startsFrom_of_read {text : List Char} {statements : List Stmt}
    (h : read text = .ok statements) : ∀ stmt ∈ statements, ∀ inner ∈ stmt.form.functionBody,
      Context.StartsFrom ⟨.ofText text, false, false⟩ 0 inner := by
  let c : Context := ⟨.ofText text, false, false⟩
  let Q (stmt : Stmt) : Prop := ∀ inner ∈ stmt.form.functionBody, c.StartsFrom 0 inner
  have hother {span : Span} {form : StmtForm} (hform : form.isFunction = false) :
      Q (.mk span form) := by
    intro inner hmem
    rw [Stmt.form, functionBody_eq_nil hform] at hmem
    cases hmem
  let steps := Grammar.stepsFor text + (16 * weightFrom c.source.tokens 0 + 9)
  have hholds : Grammar.FindsHolding c Q (fun _ => True) (Grammar.forgetful (steps + 1)) := {
    other := fun span form hform => hother (by simp_all [StmtForm.isOther])
    assignment := Grammar.yields_isAssignment.weaken fun form hform =>
      ⟨fun span => hother (by cases form <;> first | rfl | cases hform), fun _ _ => trivial⟩
    function := Grammar.yields_startsFrom_function (Nat.le_add_left _ _)
    block := .weaken .any fun _ _ _ _ => trivial
    elifBranch := .weaken .any fun _ _ _ _ => trivial }
  have hsteps : Grammar.stepsFor text ≤ steps + 1 := by omega
  have hread := (read_eq_ok_iff hsteps statements).mp h
  intro stmt hmem
  exact ((Triple.of_readAll hholds.program trivial hread).2 stmt hmem).1

end AdjointSynthesis.Code

import AdjointSynthesis.Proofs.Reading.Rules

/-!
# Reading expressions

Words that spell an expression are read as the expression wherever they stand.

* `Spells`: words are read as a value wherever one of some kinds of words follows.
* `SpellsOperand`: words that are read by every rule from operands up; names, numbers, calls and
  tuples are such words.
* `SpellsExpression`: words that are read by every rule for expressions.
-/

namespace AdjointSynthesis.Code

open Reader

namespace Grammar

variable {c : Context} {sub : Grammar}

/-! ## Words that spell a value -/

/-- Words spell a value for a reader if it reads them as the value wherever a word of some kinds
follows. -/
def Spells {α : Type} [Placed α] (r : Reader α) (c : Context) (stops : List Token.Kind)
    (words : List Word) (v : α) : Prop :=
  ∀ i, c.Shows i words → c.Meets stops (i + words.length) → r.Reads c i v (i + words.length)

/-- Words of more values, each behind a comma. -/
def behindCommas (values : List (List Word)) : List Word :=
  values.flatMap fun words => (Token.Kind.mark .comma).word :: words

section
variable {α : Type} [Placed α] {r : Reader α} {stops : List Token.Kind} {i : Nat}

/-- Where more values follow, or what follows them, the value before them ends. -/
lemma meets_of_behindCommas (hcomma : .mark .comma ∈ stops) {values : List (List Word)}
    (hshows : c.Shows i (behindCommas values))
    (hstop : c.Meets stops (i + (behindCommas values).length)) : c.Meets stops i := by
  cases values with
  | nil => exact hstop
  | cons words rest =>
    have hshows : c.Shows i ((Token.Kind.mark .comma).word :: (words ++ behindCommas rest)) :=
      hshows
    exact hshows.meets hcomma

lemma repeats_behindCommas (hcomma : .mark .comma ∈ stops) {items : List (List Word × α)}
    (hitems : ∀ item ∈ items, Spells r c stops item.1 item.2)
    (hshows : c.Shows i (behindCommas (items.map Prod.fst)))
    (hstop : c.Meets stops (i + (behindCommas (items.map Prod.fst)).length))
    (hend : (do discard (mark .comma); r).Misses c
      (i + (behindCommas (items.map Prod.fst)).length)) :
    Repeats (do discard (mark .comma); r) c i (items.map Prod.snd)
      (i + (behindCommas (items.map Prod.fst)).length) := by
  induction items generalizing i with
  | nil => exact .stop hend
  | cons item items ih =>
    have hlength : i + (behindCommas ((item :: items).map Prod.fst)).length =
        i + 1 + item.1.length + (behindCommas (items.map Prod.fst)).length := by
      simp only [behindCommas, List.map_cons, List.flatMap_cons, List.length_append,
        List.length_cons]
      omega
    have hshows : c.Shows i ((Token.Kind.mark .comma).word :: (item.1 ++
        behindCommas (items.map Prod.fst))) := hshows
    rw [hlength] at hstop hend ⊢
    have hrest := hshows.tail.append
    have hitem := hitems item List.mem_cons_self (i + 1) hshows.tail.left
      (meets_of_behindCommas hcomma hrest hstop)
    exact .go ((reads_discard_take hshows.wordAt rfl).bind fun _ _ => hitem) (by omega)
      (ih (fun item hitem => hitems item (List.mem_cons_of_mem _ hitem)) hrest hstop hend)

/-- Words of one or more values with commas between them. -/
def listed (first : List Word) (rest : List (List Word)) : List Word := first ++ behindCommas rest

/-- Behind the first of several values stands a comma, or what follows them all. -/
lemma meets_listed (hcomma : .mark .comma ∈ stops) {first : List Word} {rest : List (List Word)}
    (hshows : c.Shows i (listed first rest))
    (hstop : c.Meets stops (i + (listed first rest).length)) :
    c.Meets stops (i + first.length) := by
  refine meets_of_behindCommas hcomma hshows.append ?_
  rwa [listed, List.length_append, ← Nat.add_assoc] at hstop

lemma reads_separated (hcomma : .mark .comma ∈ stops) {first : List Word × α}
    {items : List (List Word × α)} (hfirst : Spells r c stops first.1 first.2)
    (hitems : ∀ item ∈ items, Spells r c stops item.1 item.2)
    (hshows : c.Shows i (listed first.1 (items.map Prod.fst)))
    (hstop : c.Meets stops (i + (listed first.1 (items.map Prod.fst)).length))
    (hend : (do discard (mark .comma); r).Misses c
      (i + (listed first.1 (items.map Prod.fst)).length)) :
    (separated (mark .comma) r).Reads c i (first.2 :: items.map Prod.snd)
      (i + (listed first.1 (items.map Prod.fst)).length) := by
  have hlength : i + (listed first.1 (items.map Prod.fst)).length =
      i + first.1.length + (behindCommas (items.map Prod.fst)).length := by
    rw [listed, List.length_append, Nat.add_assoc]
  rw [hlength] at hstop hend ⊢
  have hrest := hshows.append
  have row := repeats_behindCommas hcomma hitems hrest hstop hend
  refine (hfirst i hshows.left (meets_of_behindCommas hcomma hrest hstop)).bind fun v hv => ?_
  refine (row.many (Nat.le_of_lt hstop.lt_size)).bind fun more hmore => .pure ?_
  exact congrArg₂ List.cons hv hmore

end

/-! ## Names, numbers and what is written with them -/

/-- A word that is a name. -/
def nameWord (written : List Char) : Word := ⟨.name, written⟩

/-- A word that is a number. -/
def numberWord (written : List Char) : Word := ⟨.number, written⟩

/-- The identifier that a name stands for. -/
def identifierOf (written : List Char) : String := String.ofList (Text.normalForm written)

/-- A name as an expression. -/
def nameTree (written : List Char) : Expr := .mk default (.name (identifierOf written))

/-- An expression begins here, and no name that a value is bound to. -/
def Plainly (c : Context) (i : Nat) : Prop :=
  c.Meets [.number, .keyword .none_, .mark .openParen] i ∨
    c.Meets [.name] i ∧ c.Meets Token.Kind.nameStops (i + 1)

/-- Words that spell an operand. -/
structure SpellsOperand (sub : Grammar) (c : Context) (words : List Word) (e : Expr) : Prop where
  ne_nil : words ≠ []
  plainly : ∀ i, c.Shows i words → c.Meets Token.Kind.operandStops (i + words.length) → Plainly c i
  primary : Spells (sub .primary) c Token.Kind.operandStops words e

/-- Words that spell an expression. -/
structure SpellsExpression (sub : Grammar) (c : Context) (words : List Word) (e : Expr) : Prop where
  plainly : ∀ i, c.Shows i words → c.Meets Token.Kind.stops (i + words.length) → Plainly c i
  expression : Spells (sub .expression) c Token.Kind.stops words e

lemma Plainly.meets {i : Nat} (h : Plainly c i) : c.Meets Token.Kind.operands i := by
  rcases h with h | ⟨h, -⟩
  · exact h.mono (by simp [Token.Kind.operands])
  · exact h.mono (by simp [Token.Kind.operands])

lemma reads_identifier {i : Nat} {written : List Char} (h : c.wordAt i = some (nameWord written)) :
    identifier.Reads c i (identifierOf written) (i + 1) := by
  obtain ⟨token, htoken, hword⟩ := exists_token h
  obtain ⟨hkind, hwritten⟩ := Word.mk.injEq .. ▸ hword
  rw [hkind] at hwritten
  refine (reads_take htoken hkind).bind fun found hfound => .pure ?_
  obtain rfl : found = token := hfound
  exact congrArg identifierOf hwritten

lemma reads_nameExpression {i : Nat} {written : List Char}
    (h : c.wordAt i = some (nameWord written)) :
    nameExpression.Reads c i (nameTree written) (i + 1) :=
  Reads.expression ((reads_identifier h).bind fun _ hfound => .pure (congrArg Form.name hfound))
    (Context.lt_size_of_wordAt h)

section
variable [hs : sub.Settled c] [hc : c.IsPlain] {i j k : Nat} {e : Expr}

/-! ### What begins behind an operand -/

instance starts_attributeOf {start : Place} {value : Expr} :
    Starts c (attributeOf start value) (· == .mark .dot) := by
  unfold attributeOf
  infer_instance

instance starts_subscriptOf {start : Place} {value : Expr} :
    Starts c (subscriptOf sub start value) (· == .mark .openBracket) := by
  unfold subscriptOf
  infer_instance

instance starts_generatorDisplay : Starts c (generatorDisplay sub) (· == .mark .openParen) := by
  unfold generatorDisplay
  exact Starts.weaken inferInstance fun kind h => by simp_all

instance starts_callOf {start : Place} {value : Expr} :
    Starts c (callOf sub start value) (· == .mark .openParen) := by
  unfold callOf
  exact Starts.weaken inferInstance fun kind h => by simp_all

instance starts_clauseHead {isAsync : Bool} : Starts c (clauseHead sub isAsync)
    fun kind => kind == .keyword .async_ || kind == .keyword .for_ := by
  unfold clauseHead
  cases isAsync
  · simp only [Bool.false_eq_true, if_false]
    exact Starts.weaken inferInstance fun kind h => by simp_all
  · simp only [if_true]
    exact Starts.weaken inferInstance fun kind h => by simp_all

instance starts_clauses : Starts c (clauses sub)
    fun kind => kind == .keyword .async_ || kind == .keyword .for_ := by
  unfold clauses clause
  exact Starts.weaken inferInstance fun kind h => by simp_all

instance starts_assignmentExpression : Starts c (assignmentExpression sub) (· == .name) := by
  unfold assignmentExpression
  infer_instance

instance starts_unboundExpression : Starts c (unboundExpression sub) Token.Kind.opens := by
  unfold unboundExpression
  infer_instance

instance starts_starredArgument : Starts c (starredArgument sub) (· == .mark .star) := by
  unfold starredArgument
  infer_instance

instance starts_positionalArgument : Starts c (positionalArgument sub)
    fun kind => kind == .mark .star || kind.opens := by
  unfold positionalArgument
  refine Starts.weaken inferInstance fun kind h => ?_
  simp_all [Token.Kind.opens, Token.Kind.openers]

instance starts_lateArguments : Starts c (lateArguments sub)
    fun kind => kind == .name || kind == .mark .star || kind == .mark .doubleStar := by
  unfold lateArguments keywordOrStarred keywordOrSpread keywordArgument spreadArgument
  refine Starts.weaken inferInstance fun kind h => ?_
  simp_all

/-! ### Atoms -/

/-- An atom that nothing extends. -/
lemma reads_primary (hi : i < c.source.tokens.size) (h : (atom sub).Reads c i e j)
    (hj : c.Meets Token.Kind.operandStops j) : (sub .primary).Reads c i e j := by
  refine hs.reads rfl (Nat.le_of_lt hi) ?_
  refine (reads_here hi).bind fun start _ => h.bind fun found hfound => ?_
  exact (Steps.stop fun _ _ => hj.misses rfl).iterate hfound (Nat.le_of_lt hj.lt_size)

lemma spellsOperand_name (written : List Char) :
    SpellsOperand sub c [nameWord written] (nameTree written) where
  ne_nil := List.cons_ne_nil _ _
  plainly _ hshows hstop := .inr ⟨hshows.meets (List.mem_singleton_self _),
    hstop.mono Token.Kind.operandStops_subset_nameStops⟩
  primary _ hshows hstop :=
    reads_primary (Context.lt_size_of_wordAt hshows.wordAt)
      (reads_nameExpression hshows.wordAt).orElse hstop

/-- A number that is not whole. -/
def numberTree (written : List Char) : Expr :=
  .mk default (.constant (.number (String.ofList written)))

lemma spellsOperand_number {written : List Char} (hwhole : wholeDigits? written = none) :
    SpellsOperand sub c [numberWord written] (numberTree written) where
  ne_nil := List.cons_ne_nil _ _
  plainly _ hshows _ := .inl (hshows.meets (by simp [numberWord]))
  primary i hshows hstop := by
    have hi : c.Meets [.number] i := hshows.meets (List.mem_singleton_self _)
    obtain ⟨token, htoken, hword⟩ := exists_token hshows.wordAt
    obtain ⟨hkind, hwritten⟩ := Word.mk.injEq .. ▸ hword
    rw [hkind] at hwritten
    have number : numberForm.Reads c i (.constant (.number (String.ofList written))) (i + 1) := by
      refine (reads_take htoken hkind).bind fun found hfound => ?_
      obtain rfl : found = token := hfound
      have hfound : found.written = written := hwritten
      rw [hfound, hwhole]
      exact .pure rfl
    refine reads_primary hi.lt_size ?_ hstop
    exact (hi.misses rfl).orElse_reads <| (hi.misses rfl).orElse_reads <|
      (hi.misses rfl).orElse_reads (number.expression hi.lt_size).orElse

/-- The constant for a value that is not there. -/
def absentTree : Expr := .mk default (.constant .absent)

lemma spellsOperand_absent :
    SpellsOperand sub c [(Token.Kind.keyword .none_).word] absentTree where
  ne_nil := List.cons_ne_nil _ _
  plainly _ hshows _ := .inl (hshows.meets (by simp [Token.Kind.word]))
  primary i hshows hstop := by
    have hi : c.Meets [.keyword .none_] i := hshows.meets (List.mem_singleton_self _)
    have absent : constantForm.Reads c i (.constant .absent) (i + 1) :=
      Misses.orElse_reads (hi.misses rfl).discard.bind <|
        Misses.orElse_reads (hi.misses rfl).discard.bind <|
        (reads_discard_take hshows.wordAt rfl).bind fun _ _ => .pure rfl
    exact reads_primary hi.lt_size
      ((hi.misses rfl).orElse_reads (absent.expression hi.lt_size).orElse) hstop

/-! ### From operands to expressions -/

omit hc in
lemma SpellsOperand.disjunction {words : List Word} (h : SpellsOperand sub c words e) :
    Spells (sub .disjunction) c Token.Kind.testStops words e := by
  intro i hshows hstop
  have hoperand := hstop.mono Token.Kind.testStops_subset_operandStops
  have hi := (h.plainly i hshows hoperand).meets
  exact reads_disjunction hi hstop (reads_comparison hi.lt_size hstop
    (reads_bitwiseOr hi hoperand (h.primary i hshows hoperand)))

lemma SpellsOperand.expression {words : List Word} (h : SpellsOperand sub c words e) :
    SpellsExpression sub c words e := by
  have hsub := Token.Kind.stops_subset_operandStops
  refine ⟨fun i hshows hstop => h.plainly i hshows (hstop.mono hsub), fun i hshows hstop => ?_⟩
  exact reads_expression (h.plainly i hshows (hstop.mono hsub)).meets hstop
    (h.disjunction i hshows (hstop.mono Token.Kind.stops_subset_testStops))

/-! ### Expressions in brackets -/

instance starts_namedExpression : Starts c (namedExpression sub) Token.Kind.opens := by
  unfold namedExpression
  refine Starts.weaken inferInstance fun kind h => ?_
  simp_all [Token.Kind.opens, Token.Kind.openers]

instance starts_starNamedExpression : Starts c (starNamedExpression sub)
    fun kind => kind == .mark .star || kind.opens := by
  unfold starNamedExpression
  infer_instance

instance starts_starNamedExpressions : Starts c (starNamedExpressions sub)
    fun kind => kind == .mark .star || kind.opens := by
  unfold starNamedExpressions
  infer_instance

omit hs hc in
lemma misses_assignmentExpression (h : Plainly c i) : (assignmentExpression sub).Misses c i := by
  rcases h with h | ⟨h, hbehind⟩
  · exact h.misses rfl
  · obtain ⟨⟨kind, written⟩, hword, hkind⟩ := id h
    obtain rfl : kind = .name := List.mem_singleton.mp hkind
    refine Misses.expression ((reads_nameExpression hword).bind_misses fun _ _ => ?_) h.lt_size
    exact (hbehind.misses rfl).discard.bind

namespace SpellsExpression

variable {words : List Word} (h : SpellsExpression sub c words e)
include h

omit hs hc in
lemma unboundExpression : Spells (unboundExpression sub) c Token.Kind.stops words e :=
  fun i hshows hstop => (h.expression i hshows hstop).bind fun _ hfound =>
    (Misses.notAhead (hstop.misses rfl)).bind fun _ _ => .pure hfound

omit hs in
lemma namedExpression : Spells (namedExpression sub) c Token.Kind.stops words e :=
  fun i hshows hstop => (misses_assignmentExpression (h.plainly i hshows hstop)).orElse_reads <|
    (misses_faults hc.plain).orElse_reads (h.unboundExpression i hshows hstop)

omit hs in
lemma starNamedExpression : Spells (starNamedExpression sub) c Token.Kind.stops words e :=
  fun i hshows hstop => ((h.plainly i hshows hstop).meets.misses rfl).orElse_reads
    (h.namedExpression i hshows hstop)

omit hs hc in
lemma positionalArgument : Spells (positionalArgument sub) c Token.Kind.itemStops words e := by
  intro i hshows hitem
  have hstop : c.Meets Token.Kind.stops (i + words.length) :=
    hitem.mono Token.Kind.itemStops_subset_stops
  have hplainly := h.plainly i hshows hstop
  refine (hplainly.meets.misses rfl).orElse_reads ?_
  refine ((misses_assignmentExpression hplainly).orElse_reads
    (h.unboundExpression i hshows hstop)).bind fun _ hfound => ?_
  exact (Misses.notAhead (hitem.misses rfl)).bind fun _ _ => .pure hfound

end SpellsExpression

/-! ### Calls -/

/-- The comma behind the last value, or none. -/
def trailingComma (trailing : Bool) : List Word :=
  if trailing then [(Token.Kind.mark .comma).word] else []

/-- Words of values in brackets with commas between them. -/
def bracketed (first : List Word) (rest : List (List Word)) (trailing : Bool) : List Word :=
  (Token.Kind.mark .openParen).word ::
    (listed first rest ++ (trailingComma trailing ++ [(Token.Kind.mark .closeParen).word]))

section
variable {first : List Word × Expr} {rest : List (List Word × Expr)} {trailing : Bool}

omit hs hc in
/-- Behind the last value stands a comma or the bracket. -/
lemma meets_trailingComma
    (h : c.Shows i (trailingComma trailing ++ [(Token.Kind.mark .closeParen).word])) :
    c.Meets Token.Kind.itemStops i := by
  cases trailing
  · exact h.meets (by simp [Token.Kind.word, Token.Kind.itemStops])
  · exact h.meets (by simp [Token.Kind.word, Token.Kind.itemStops])

omit hs hc in
/-- Behind the last value no other one follows. -/
lemma misses_trailingComma {α : Type} {r : Reader α} {kinds : Token.Kind → Bool} [Starts c r kinds]
    (h : c.Shows i (trailingComma trailing ++ [(Token.Kind.mark .closeParen).word]))
    (hkinds : kinds (.mark .closeParen) = false) : (do discard (mark .comma); r).Misses c i := by
  cases trailing
  · have hclose : c.Meets [.mark .closeParen] i := h.meets (List.mem_singleton_self _)
    exact (hclose.misses rfl).discard.bind
  · have hclose : c.Meets [.mark .closeParen] (i + 1) := h.tail.meets (List.mem_singleton_self _)
    refine (reads_discard_take h.wordAt rfl).bind_misses fun _ _ => ?_
    exact hclose.misses (by simp [hkinds])

omit hs hc in
/-- The comma behind the last value may be left out. -/
lemma reads_trailingComma
    (h : c.Shows i (trailingComma trailing ++ [(Token.Kind.mark .closeParen).word])) :
    (discard (Reader.optional (mark .comma))).Reads c i ()
      (i + (trailingComma trailing).length) := by
  cases trailing
  · have hclose : c.Meets [.mark .closeParen] i := h.meets (List.mem_singleton_self _)
    exact (hclose.misses rfl).optional.discard
  · obtain ⟨token, htoken, hword⟩ := exists_token h.wordAt
    exact (reads_take htoken (congrArg Word.kind hword)).optional.discard

lemma reads_arguments (hfirst : SpellsExpression sub c first.1 first.2)
    (hrest : ∀ item ∈ rest, SpellsExpression sub c item.1 item.2)
    (hshows : c.Shows i (listed first.1 (rest.map Prod.fst) ++
      (trailingComma trailing ++ [(Token.Kind.mark .closeParen).word]))) :
    (sub .arguments).Reads c i ⟨0, first.2 :: rest.map Prod.snd, []⟩
      (i + (listed first.1 (rest.map Prod.fst)).length + (trailingComma trailing).length) := by
  have hbehind := hshows.append
  have hstop := meets_trailingComma hbehind
  have positional := reads_separated (by simp [Token.Kind.itemStops]) hfirst.positionalArgument
    (fun item hitem => (hrest item hitem).positionalArgument) hshows.left hstop
    (misses_trailingComma hbehind rfl)
  have late := (misses_trailingComma (r := lateArguments sub) hbehind rfl).optional
  have hi : i < c.source.tokens.size :=
    (hfirst.plainly i hshows.left.left ((meets_listed (by simp [Token.Kind.itemStops]) hshows.left
      hstop).mono Token.Kind.itemStops_subset_stops)).meets.lt_size
  have arguments : (argumentList sub).Reads c i ⟨0, first.2 :: rest.map Prod.snd, []⟩
      (i + (listed first.1 (rest.map Prod.fst)).length) := by
    refine (reads_here hi).bind fun start _ => Reads.orElse ?_
    refine positional.bind fun found hfound => late.bind fun more hmore => .pure ?_
    obtain rfl : more = none := Option.map_eq_none_iff.mp hmore
    rw [← hfound]
    simp [collect, Placed.bare]
  have closing : (Reader.ahead (mark .closeParen)).Reads c
      (i + (listed first.1 (rest.map Prod.fst)).length + (trailingComma trailing).length) ()
      (i + (listed first.1 (rest.map Prod.fst)).length + (trailingComma trailing).length) := by
    obtain ⟨token, htoken, hword⟩ := exists_token hbehind.append.wordAt
    exact (reads_take htoken (congrArg Word.kind hword)).ahead
  refine hs.reads rfl (Nat.le_of_lt hi) (Reads.orElse ?_)
  refine arguments.bind fun found hfound => (reads_trailingComma hbehind).bind fun _ _ => ?_
  exact closing.bind fun _ _ => .pure hfound

lemma length_bracketed (first : List Word) (rest : List (List Word)) (trailing : Bool) :
    (bracketed first rest trailing).length =
      1 + (listed first rest).length + (trailingComma trailing).length + 1 := by
  simp only [bracketed, List.length_cons, List.length_append, List.length_nil]
  omega

omit hs hc in
/-- Behind the bracket stands an expression that a comma or the other bracket follows. -/
lemma reads_first (hfirst : SpellsExpression sub c first.1 first.2)
    (hshows : c.Shows i (bracketed first.1 (rest.map Prod.fst) trailing)) :
    Plainly c (i + 1) ∧ (sub .expression).Reads c (i + 1) first.2 (i + 1 + first.1.length) ∧
      c.Meets Token.Kind.itemStops (i + 1 + first.1.length) := by
  have hitem := meets_listed (by simp [Token.Kind.itemStops]) hshows.tail.left
    (meets_trailingComma hshows.tail.append)
  have hstop := hitem.mono Token.Kind.itemStops_subset_stops
  exact ⟨hfirst.plainly _ hshows.tail.left.left hstop,
    hfirst.expression _ hshows.tail.left.left hstop, hitem⟩

omit hs in
lemma misses_generatorDisplay (hfirst : SpellsExpression sub c first.1 first.2)
    (hshows : c.Shows i (bracketed first.1 (rest.map Prod.fst) trailing)) :
    (generatorDisplay sub).Misses c i := by
  obtain ⟨hplainly, hreads, hitem⟩ := reads_first hfirst hshows
  refine Misses.orElse (Misses.expression ?_ (Context.lt_size_of_wordAt hshows.wordAt))
    (misses_faults hc.plain)
  refine (reads_discard_take hshows.wordAt rfl).bind_misses fun _ _ => ?_
  have item : (assignmentExpression sub <|> unboundExpression sub).Reads c (i + 1) first.2
      (i + 1 + first.1.length) :=
    (misses_assignmentExpression hplainly).orElse_reads <| hreads.bind fun _ hfound =>
      (Misses.notAhead (hitem.misses rfl)).bind fun _ _ => .pure hfound
  exact item.bind_misses fun _ _ => Misses.bind (hitem.misses rfl)

lemma reads_callOf (hfirst : SpellsExpression sub c first.1 first.2)
    (hrest : ∀ item ∈ rest, SpellsExpression sub c item.1 item.2) {start : Place} {value : Expr}
    (hvalue : Placed.bare value = e)
    (hshows : c.Shows i (bracketed first.1 (rest.map Prod.fst) trailing)) :
    (callOf sub start value).Reads c i
      (.mk default (.call e (first.2 :: rest.map Prod.snd) []))
      (i + (bracketed first.1 (rest.map Prod.fst) trailing).length) := by
  have closing : c.wordAt (i + 1 + (listed first.1 (rest.map Prod.fst)).length +
      (trailingComma trailing).length) = some (Token.Kind.mark .closeParen).word :=
    hshows.tail.append.append.wordAt
  have hlength : i + (bracketed first.1 (rest.map Prod.fst) trailing).length =
      i + 1 + (listed first.1 (rest.map Prod.fst)).length + (trailingComma trailing).length + 1 := by
    rw [length_bracketed]
    omega
  rw [hlength]
  refine (misses_generatorDisplay hfirst hshows).bind.orElse_reads ?_
  refine (reads_discard_take hshows.wordAt rfl).bind fun _ _ => ?_
  refine (reads_arguments hfirst hrest hshows.tail).optional.bind fun found hfound => ?_
  refine (reads_discard_take closing rfl).bind fun _ _ => reads_spanFrom.bind fun span hspan => ?_
  obtain ⟨arguments, rfl, harguments⟩ := Option.map_eq_some_iff.mp hfound
  obtain ⟨-, hpositional, hkeywords⟩ := Arguments.mk.injEq .. ▸ harguments
  refine .pure ?_
  rw [← hvalue, ← hpositional]
  change Expr.mk (Placed.bare span) (.call _ (seenIn .bare arguments.positional)
    (seenInKeywords .bare arguments.keywords)) = _
  rw [seenIn_eq_map, seenInKeywords_eq_map, hspan]
  exact congrArg (fun keywords => Expr.mk default (.call _ _ keywords)) hkeywords

/-- An attribute of a value as an expression. -/
def attributeTree (value : Expr) (written : List Char) : Expr :=
  .mk default (.attribute value (identifierOf written))

/-- A call as an expression. -/
def callTree (function : Expr) (arguments : List Expr) : Expr :=
  .mk default (.call function arguments [])

/-- An attribute, a call or a subscript of a value that starts at a place. -/
def extension (sub : Grammar) (start : Place) (value : Expr) : Reader Expr :=
  attributeOf start value <|> callOf sub start value <|> subscriptOf sub start value

instance starts_extension {start : Place} {value : Expr} : Starts c (extension sub start value)
    fun kind => kind == .mark .dot || (kind == .mark .openParen || kind == .mark .openBracket) := by
  unfold extension
  infer_instance

omit hc in
lemma reads_attributeOf {start : Place} {value : Expr} (hvalue : Placed.bare value = e)
    {written : List Char} (hshows : c.Shows i [(Token.Kind.mark .dot).word, nameWord written]) :
    (attributeOf start value).Reads c i (attributeTree e written) (i + 2) := by
  refine (reads_discard_take hshows.wordAt rfl).bind fun _ _ => ?_
  refine (reads_identifier hshows.tail.wordAt).bind fun name hname => ?_
  refine reads_spanFrom.bind fun span hspan => .pure ?_
  exact congrArg₂ Expr.mk hspan (congrArg₂ Form.attribute hvalue hname)

/-- The step from a value to a call of it, and no step behind. -/
lemma steps_call (hfirst : SpellsExpression sub c first.1 first.2)
    (hrest : ∀ item ∈ rest, SpellsExpression sub c item.1 item.2) {start : Place}
    (hshows : c.Shows i (bracketed first.1 (rest.map Prod.fst) trailing))
    (hstop : c.Meets Token.Kind.operandStops
      (i + (bracketed first.1 (rest.map Prod.fst) trailing).length)) :
    Steps (extension sub start) c i e (callTree e (first.2 :: rest.map Prod.snd))
      (i + (bracketed first.1 (rest.map Prod.fst) trailing).length) := by
  have hopen : c.Meets [.mark .openParen] i := hshows.meets (List.mem_singleton_self _)
  refine .go (fun value hvalue => ?_) (by rw [length_bracketed]; omega)
    (.stop fun _ _ => hstop.misses rfl)
  exact (hopen.misses rfl).orElse_reads (reads_callOf hfirst hrest hvalue hshows).orElse

/-- A call of a name. -/
lemma spellsOperand_call (function : List Char) (hfirst : SpellsExpression sub c first.1 first.2)
    (hrest : ∀ item ∈ rest, SpellsExpression sub c item.1 item.2) (trailing : Bool) :
    SpellsOperand sub c (nameWord function :: bracketed first.1 (rest.map Prod.fst) trailing)
      (callTree (nameTree function) (first.2 :: rest.map Prod.snd)) where
  ne_nil := List.cons_ne_nil _ _
  plainly _ hshows _ := .inr ⟨hshows.meets (List.mem_singleton_self _),
    hshows.tail.meets (by simp [Token.Kind.word, Token.Kind.nameStops])⟩
  primary i hshows hstop := by
    have hi := Context.lt_size_of_wordAt hshows.wordAt
    rw [List.length_cons, Nat.add_comm _ 1, ← Nat.add_assoc] at hstop ⊢
    refine hs.reads rfl (Nat.le_of_lt hi) ((reads_here hi).bind fun start _ => ?_)
    refine (reads_nameExpression hshows.wordAt).orElse.bind fun value hvalue => ?_
    exact (steps_call hfirst hrest hshows.tail hstop).iterate hvalue (Nat.le_of_lt hstop.lt_size)

/-- A call of an attribute of a name. -/
lemma spellsOperand_attributeCall (value part : List Char)
    (hfirst : SpellsExpression sub c first.1 first.2)
    (hrest : ∀ item ∈ rest, SpellsExpression sub c item.1 item.2) (trailing : Bool) :
    SpellsOperand sub c (nameWord value :: (Token.Kind.mark .dot).word :: nameWord part ::
        bracketed first.1 (rest.map Prod.fst) trailing)
      (callTree (attributeTree (nameTree value) part) (first.2 :: rest.map Prod.snd)) where
  ne_nil := List.cons_ne_nil _ _
  plainly _ hshows _ := .inr ⟨hshows.meets (List.mem_singleton_self _),
    hshows.tail.meets (by simp [Token.Kind.word, Token.Kind.nameStops])⟩
  primary i hshows hstop := by
    have hi := Context.lt_size_of_wordAt hshows.wordAt
    have hdot : c.Shows (i + 1) [(Token.Kind.mark .dot).word, nameWord part] :=
      Context.Shows.left hshows.tail
    simp only [List.length_cons] at hstop ⊢
    rw [show ∀ n, i + (n + 1 + 1 + 1) = i + 1 + 2 + n by omega] at hstop ⊢
    refine hs.reads rfl (Nat.le_of_lt hi) ((reads_here hi).bind fun start _ => ?_)
    refine (reads_nameExpression hshows.wordAt).orElse.bind fun value hvalue => ?_
    refine (Steps.go (fun value hvalue => (reads_attributeOf hvalue hdot).orElse) (by omega)
      (steps_call hfirst hrest hshows.tail.tail.tail hstop)).iterate hvalue ?_
    exact Nat.le_of_lt hstop.lt_size

/-! ### Tuples and groups -/

/-- A tuple as an expression. -/
def tupleTree (items : List Expr) : Expr := .mk default (.tuple items)

/-- The values of a tuple behind the first one. -/
lemma reads_moreItems (hrest : ∀ item ∈ rest, SpellsExpression sub c item.1 item.2)
    (htrailing : rest = [] → trailing = true)
    (hshows : c.Shows i (behindCommas (rest.map Prod.fst) ++
      (trailingComma trailing ++ [(Token.Kind.mark .closeParen).word]))) :
    ∃ more : Option (List Expr), more.getD [] = rest.map Prod.snd ∧
      c.wordAt i = some (Token.Kind.mark .comma).word ∧
      (Reader.optional (starNamedExpressions sub)).Reads c (i + 1) more
        (i + (behindCommas (rest.map Prod.fst)).length + (trailingComma trailing).length) := by
  cases rest with
  | nil =>
    obtain rfl := htrailing rfl
    have hclose : c.Meets [.mark .closeParen] (i + 1) :=
      hshows.tail.meets (List.mem_singleton_self _)
    exact ⟨none, rfl, hshows.wordAt, (hclose.misses rfl).optional⟩
  | cons second more =>
    have hshows : c.Shows i ((Token.Kind.mark .comma).word ::
        (listed second.1 (more.map Prod.fst) ++
          (trailingComma trailing ++ [(Token.Kind.mark .closeParen).word]))) := by
      simpa [behindCommas, listed] using hshows
    have hbehind := hshows.tail.append
    have items := reads_separated (by simp [Token.Kind.stops])
      (hrest second List.mem_cons_self).starNamedExpression
      (fun item hitem => (hrest item (List.mem_cons_of_mem _ hitem)).starNamedExpression)
      hshows.tail.left
      ((meets_trailingComma hbehind).mono Token.Kind.itemStops_subset_stops)
      (misses_trailingComma hbehind rfl)
    refine ⟨some (second.2 :: more.map Prod.snd), rfl, hshows.wordAt, ?_⟩
    have hlength : i + (behindCommas ((second :: more).map Prod.fst)).length +
        (trailingComma trailing).length =
          i + 1 + (listed second.1 (more.map Prod.fst)).length + (trailingComma trailing).length := by
      simp only [behindCommas, listed, List.map_cons, List.flatMap_cons, List.length_append,
        List.length_cons]
      omega
    rw [hlength]
    exact Reads.optional (items.bind fun found hfound =>
      (reads_trailingComma hbehind).bind fun _ _ => .pure hfound)

lemma reads_tupleDisplay (hfirst : SpellsExpression sub c first.1 first.2)
    (hrest : ∀ item ∈ rest, SpellsExpression sub c item.1 item.2)
    (htrailing : rest = [] → trailing = true)
    (hshows : c.Shows i (bracketed first.1 (rest.map Prod.fst) trailing)) :
    (tupleDisplay sub).Reads c i (tupleTree (first.2 :: rest.map Prod.snd))
      (i + (bracketed first.1 (rest.map Prod.fst) trailing).length) := by
  have hi := Context.lt_size_of_wordAt hshows.wordAt
  obtain ⟨-, -, hitem⟩ := reads_first hfirst hshows
  have hstop := hitem.mono Token.Kind.itemStops_subset_stops
  have hbehind : c.Shows (i + 1 + first.1.length) (behindCommas (rest.map Prod.fst) ++
      (trailingComma trailing ++ [(Token.Kind.mark .closeParen).word])) := by
    have := hshows.tail
    rw [listed, List.append_assoc] at this
    exact this.append
  obtain ⟨more, hmore, hcomma, reads⟩ := reads_moreItems hrest htrailing hbehind
  have hclose := hbehind.append.append.wordAt
  have hlength : i + (bracketed first.1 (rest.map Prod.fst) trailing).length =
      i + 1 + first.1.length + (behindCommas (rest.map Prod.fst)).length +
        (trailingComma trailing).length + 1 := by
    rw [length_bracketed, listed, List.length_append]
    omega
  rw [hlength]
  have items : (Reader.optional do
      let first ← starNamedExpression sub
      discard (mark .comma)
      let more ← Reader.optional (starNamedExpressions sub)
      return first :: more.getD []).Reads c (i + 1) (some (first.2 :: rest.map Prod.snd))
        (i + 1 + first.1.length + (behindCommas (rest.map Prod.fst)).length +
          (trailingComma trailing).length) := by
    refine Reads.optional ?_
    refine (hfirst.starNamedExpression _ hshows.tail.left.left hstop).bind fun head hhead => ?_
    refine (reads_discard_take hcomma rfl).bind fun _ _ => reads.bind fun found hfound => .pure ?_
    refine congrArg₂ List.cons hhead ?_
    rw [← hmore, ← hfound]
    cases found <;> rfl
  refine Reads.expression ?_ hi
  refine (reads_discard_take hshows.wordAt rfl).bind fun _ _ => items.bind fun found hfound => ?_
  refine (reads_discard_take hclose rfl).bind fun _ _ => .pure ?_
  obtain ⟨values, rfl, hvalues⟩ := Option.map_eq_some_iff.mp hfound
  refine congrArg Form.tuple ?_
  rw [Option.getD_some, seenIn_eq_map]
  exact hvalues

omit hs in
/-- One value in brackets without a comma is no tuple. -/
lemma misses_tupleDisplay (hfirst : SpellsExpression sub c first.1 first.2)
    (hshows : c.Shows i (bracketed first.1 [] false)) : (tupleDisplay sub).Misses c i := by
  have hi := Context.lt_size_of_wordAt hshows.wordAt
  have hclose : c.Meets [.mark .closeParen] (i + 1 + first.1.length) := by
    have := hshows.tail.append
    rw [listed, behindCommas, List.flatMap_nil, List.append_nil] at this
    exact this.meets (List.mem_singleton_self _)
  have hstop : c.Meets Token.Kind.stops _ := hclose.mono (by simp [Token.Kind.stops])
  have hplainly := hfirst.plainly _ hshows.tail.left.left hstop
  refine Misses.expression ((reads_discard_take hshows.wordAt rfl).bind_misses fun _ _ => ?_) hi
  have items : (do
      let first ← starNamedExpression sub
      discard (mark .comma)
      let more ← Reader.optional (starNamedExpressions sub)
      return first :: more.getD []).Misses c (i + 1) :=
    (hfirst.starNamedExpression _ hshows.tail.left.left hstop).bind_misses fun _ _ =>
      (hclose.misses rfl).discard.bind
  exact items.optional.bind_misses fun _ _ => (hplainly.meets.misses rfl).discard.bind

instance starts_yieldExpression : Starts c (yieldExpression sub) (· == .keyword .yield_) := by
  unfold yieldExpression
  infer_instance

/-- What values in brackets are as an expression: one value without a comma is itself. -/
def bracketedTree (first : Expr) (rest : List Expr) (trailing : Bool) : Expr :=
  if rest = [] ∧ trailing = false then first else tupleTree (first :: rest)

lemma reads_display (hfirst : SpellsExpression sub c first.1 first.2)
    (hrest : ∀ item ∈ rest, SpellsExpression sub c item.1 item.2)
    (hshows : c.Shows i (bracketed first.1 (rest.map Prod.fst) trailing)) :
    (display sub).Reads c i (bracketedTree first.2 (rest.map Prod.snd) trailing)
      (i + (bracketed first.1 (rest.map Prod.fst) trailing).length) := by
  obtain ⟨token, htoken, hword⟩ := exists_token hshows.wordAt
  have hkind : token.kind = .mark .openParen := congrArg Word.kind hword
  refine (reads_peek htoken).bind fun found hfound => ?_
  obtain rfl : found = token := hfound
  rw [hkind]
  by_cases htuple : rest = [] → trailing = true
  · have hnot : ¬(rest.map Prod.snd = [] ∧ trailing = false) := by
      rintro ⟨hnil, hfalse⟩
      rw [htuple (List.map_eq_nil_iff.mp hnil)] at hfalse
      cases hfalse
    rw [bracketedTree, if_neg hnot]
    exact (reads_tupleDisplay hfirst hrest htuple hshows).orElse
  · obtain ⟨rfl, hfalse⟩ := Classical.not_imp.mp htuple
    obtain rfl : trailing = false := Bool.not_eq_true _ ▸ hfalse
    have hclose : c.Shows (i + 1 + first.1.length) [(Token.Kind.mark .closeParen).word] := by
      have := hshows.tail.append
      rwa [listed, List.map_nil, behindCommas, List.flatMap_nil, List.append_nil] at this
    have hstop : c.Meets Token.Kind.stops (i + 1 + first.1.length) :=
      hclose.meets (by simp [Token.Kind.word, Token.Kind.stops])
    have hplainly := hfirst.plainly _ hshows.tail.left.left hstop
    have hlength : i + (bracketed first.1 [] false).length = i + 1 + first.1.length + 1 := by
      rw [length_bracketed, listed, behindCommas, List.flatMap_nil, List.append_nil, trailingComma]
      simp
      omega
    refine (misses_tupleDisplay hfirst hshows).orElse_reads (Reads.orElse ?_)
    simp only [List.map_nil]
    rw [hlength]
    refine Reads.orElse ((reads_discard_take hshows.wordAt rfl).bind fun _ _ => ?_)
    refine ((hplainly.meets.misses rfl).orElse_reads
      (hfirst.namedExpression _ hshows.tail.left.left hstop)).bind fun found hfound => ?_
    exact (reads_discard_take hclose.wordAt rfl).bind fun _ _ => .pure hfound

lemma reads_atom_bracketed (hfirst : SpellsExpression sub c first.1 first.2)
    (hrest : ∀ item ∈ rest, SpellsExpression sub c item.1 item.2)
    (hshows : c.Shows i (bracketed first.1 (rest.map Prod.fst) trailing)) :
    (atom sub).Reads c i (bracketedTree first.2 (rest.map Prod.snd) trailing)
      (i + (bracketed first.1 (rest.map Prod.fst) trailing).length) := by
  have hi : c.Meets [.mark .openParen] i := hshows.meets (List.mem_singleton_self _)
  exact (hi.misses rfl).orElse_reads <| (hi.misses rfl).orElse_reads <|
    (hi.misses rfl).orElse_reads <| (hi.misses rfl).orElse_reads
      (reads_display hfirst hrest hshows).orElse

/-- Values in brackets. -/
lemma spellsOperand_bracketed (hfirst : SpellsExpression sub c first.1 first.2)
    (hrest : ∀ item ∈ rest, SpellsExpression sub c item.1 item.2) (trailing : Bool) :
    SpellsOperand sub c (bracketed first.1 (rest.map Prod.fst) trailing)
      (bracketedTree first.2 (rest.map Prod.snd) trailing) where
  ne_nil := List.cons_ne_nil _ _
  plainly _ hshows _ := .inl (hshows.meets (by simp [Token.Kind.word]))
  primary i hshows hstop :=
    reads_primary (Context.lt_size_of_wordAt hshows.wordAt)
      (reads_atom_bracketed hfirst hrest hshows) hstop

/-- Words of a tuple in brackets; a single value has a comma behind it. -/
def tupleWords (first : List Word) (rest : List (List Word)) : List Word :=
  bracketed first rest rest.isEmpty

end

/-! ### Conditional expressions -/

/-- The words of a comparison that says that two things are the same. -/
def sameWords (left right : List Word) : List Word :=
  left ++ (Token.Kind.keyword .is_).word :: right

/-- Such a comparison as an expression. -/
def sameTree (left right : Expr) : Expr := .mk default (.comparison left [.mk .same right])

omit hc in
lemma spells_same {left right : List Word} {first second : Expr}
    (hleft : SpellsOperand sub c left first) (hright : SpellsOperand sub c right second) :
    Spells (sub .disjunction) c Token.Kind.testStops (sameWords left right)
      (sameTree first second) := by
  intro i hshows hstop
  have hlength : i + (sameWords left right).length = i + left.length + 1 + right.length := by
    simp only [sameWords, List.length_append, List.length_cons]
    omega
  rw [hlength] at hstop ⊢
  have hbehind := hshows.append
  have his : c.Meets Token.Kind.operandStops (i + left.length) :=
    hbehind.meets (by simp [Token.Kind.word, Token.Kind.operandStops])
  have hend := hstop.mono Token.Kind.testStops_subset_operandStops
  have hi := (hleft.plainly i hshows.left his).meets
  have hj := (hright.plainly _ hbehind.tail hend).meets
  refine reads_disjunction hi hstop (reads_comparison_same hi.lt_size
    (reads_bitwiseOr hi his (hleft.primary i hshows.left his)) hbehind.wordAt hj
    (reads_bitwiseOr hj hend (hright.primary _ hbehind.tail hend)) ?_ hstop)
  have := List.length_pos_of_ne_nil hright.ne_nil
  omega

/-- The words of a conditional expression. -/
def conditionalWords (yes condition no : List Word) : List Word :=
  yes ++ (Token.Kind.keyword .if_).word :: (condition ++ (Token.Kind.keyword .else_).word :: no)

/-- A conditional expression. -/
def conditionalTree (condition yes no : Expr) : Expr := .mk default (.conditional condition yes no)

lemma spellsExpression_conditional {yesWords words noWords : List Word} {yes condition no : Expr}
    (hyes : SpellsOperand sub c yesWords yes)
    (hcondition : Spells (sub .disjunction) c Token.Kind.testStops words condition)
    (hno : SpellsExpression sub c noWords no) :
    SpellsExpression sub c (conditionalWords yesWords words noWords)
      (conditionalTree condition yes no) := by
  have hif {i : Nat} (hshows : c.Shows i (conditionalWords yesWords words noWords)) :
      c.Meets Token.Kind.testStops (i + yesWords.length) :=
    hshows.append.meets (by simp [Token.Kind.word, Token.Kind.testStops])
  have hoperand := Token.Kind.testStops_subset_operandStops
  refine ⟨fun i hshows _ => hyes.plainly i hshows.left ((hif hshows).mono hoperand),
    fun i hshows hstop => ?_⟩
  have hlength : i + (conditionalWords yesWords words noWords).length =
      i + yesWords.length + 1 + words.length + 1 + noWords.length := by
    simp only [conditionalWords, List.length_append, List.length_cons]
    omega
  rw [hlength] at hstop ⊢
  have hbehind := hshows.append
  have helse : c.Meets Token.Kind.testStops (i + yesWords.length + 1 + words.length) :=
    hbehind.tail.append.meets (by simp [Token.Kind.word, Token.Kind.testStops, Token.Kind.stops])
  refine reads_conditional (hyes.plainly i hshows.left ((hif hshows).mono hoperand)).meets.lt_size
    (hyes.disjunction i hshows.left (hif hshows)) hbehind.wordAt
    (hcondition _ hbehind.tail.left helse) hbehind.tail.append.wordAt ?_
  exact hno.expression _ hbehind.tail.append.tail hstop

end

end Grammar

end AdjointSynthesis.Code

import AdjointSynthesis.Proofs.Reading.Basic

/-!
# What the rules read

Rules of the grammar where only few kinds of words occur.

* `Token.Kind.openers`, `operands`, `stops`: the kinds of words that expressions begin with and that
  stand behind them.
* `reads_factor` up to `reads_expression`: an operand behind which no operator stands is read as an
  expression by each rule on the way.
-/

namespace AdjointSynthesis.Code

open Reader

/-! ## Kinds of words -/

namespace Token.Kind

/-- The kinds of words that an expression begins with. -/
def openers : List Token.Kind := [.name, .number, .text, .keyword .true_, .keyword .false_,
  .keyword .none_, .keyword .not_, .keyword .await_, .keyword .lambda_, .mark .openParen,
  .mark .openBracket, .mark .openBrace, .mark .ellipsis, .mark .plus, .mark .minus, .mark .tilde]

/-- Whether an expression begins with words of a kind. -/
def opens (kind : Token.Kind) : Bool := openers.contains kind

/-- The kinds of words that an operand begins with, if it is no operation itself. -/
def operands : List Token.Kind := [.name, .number, .keyword .none_, .mark .openParen]

/-- The kinds of words that stand for relations. -/
def links : List Token.Kind := [.mark .equal, .mark .notEqual, .mark .lessEqual, .mark .less,
  .mark .greaterEqual, .mark .greater, .keyword .not_, .keyword .in_, .keyword .is_]

/-- The kinds of words that may stand behind a whole expression. -/
def stops : List Token.Kind := [.newline, .keyword .else_, .mark .comma, .mark .closeParen,
  .mark .colon, .mark .assign]

/-- The kinds of words that may stand behind an expression in brackets. -/
def itemStops : List Token.Kind := [.mark .comma, .mark .closeParen]

/-- The kinds of words that may stand behind a disjunction. -/
def testStops : List Token.Kind := .keyword .if_ :: stops

/-- The kinds of words that may stand behind an operand without an operator. -/
def operandStops : List Token.Kind := .keyword .is_ :: testStops

/-- The kinds of words that may stand behind a name. -/
def nameStops : List Token.Kind := .mark .openParen :: .mark .dot :: operandStops

/-- The kinds of words that statements in a row end with. -/
def closers : List Token.Kind := [.dedent, .finish]

/-- Kinds of words that no statement with a block begins with; a match begins with a name. -/
def blockless : List Token.Kind := [.name, .keyword .return_, .mark .openParen, .dedent, .finish]

lemma itemStops_subset_stops : itemStops ⊆ stops := by decide

lemma stops_subset_testStops : stops ⊆ testStops := List.subset_cons_self _ _

lemma testStops_subset_operandStops : testStops ⊆ operandStops := List.subset_cons_self _ _

lemma stops_subset_operandStops : stops ⊆ operandStops :=
  fun _ h => testStops_subset_operandStops (stops_subset_testStops h)

lemma itemStops_subset_operandStops : itemStops ⊆ operandStops :=
  fun _ h => stops_subset_operandStops (itemStops_subset_stops h)

lemma operandStops_subset_nameStops : operandStops ⊆ nameStops := by decide

end Token.Kind

lemma Starts.weaken {c : Context} {α : Type} {r : Reader α} {first other : Token.Kind → Bool}
    (h : Starts c r first) (hfirst : ∀ kind, other kind = false → first kind = false) :
    Starts c r other :=
  ⟨fun hword hother => h.misses hword (hfirst _ hother)⟩

namespace Grammar

variable {c : Context} {sub : Grammar}

/-! ## What rules begin with -/

section
variable {first : Token.Kind → Bool}

lemma starts_of_rule [hs : sub.Settled c] {rule : Rule} (hrule : rule.isRead = true)
    (h : Starts c (ofRule sub rule) first) : Starts c (sub rule) first where
  misses hword hfirst :=
    hs.misses hrule (Nat.le_of_lt (Context.lt_size_of_wordAt hword)) (h.misses hword hfirst)

instance starts_mark {sign : Mark} : Starts c (mark sign) (· == .mark sign) := starts_take

instance starts_word {keyword : Keyword} : Starts c (word keyword) (· == .keyword keyword) :=
  starts_take

instance starts_nameToken : Starts c nameToken (· == .name) := starts_take

instance starts_identifier : Starts c identifier (· == .name) := by
  unfold identifier
  infer_instance

instance starts_nameExpression : Starts c nameExpression (· == .name) := by
  unfold nameExpression
  infer_instance

instance starts_leftGrouped {operand : Reader Expr} {operator : Reader BinaryOperator}
    [Starts c operand first] : Starts c (leftGrouped operand operator) first := by
  unfold leftGrouped
  infer_instance

instance starts_operatorMark {sign : Mark} {operator : BinaryOperator} :
    Starts c (operatorMark sign operator) (· == .mark sign) := by
  unfold operatorMark
  infer_instance

instance starts_commaSeparated {α : Type} {r : Reader α} [Starts c r first] :
    Starts c (commaSeparated r) first := by
  unfold commaSeparated
  infer_instance

instance starts_tupled {r : Reader Expr} [Starts c r first] : Starts c (tupled r) first := by
  unfold tupled
  infer_instance

instance starts_joined {kind : Junction} {between : Keyword} {operand : Reader Expr}
    [Starts c operand first] : Starts c (joined kind between operand) first := by
  unfold joined
  infer_instance

instance starts_signed {sign : Mark} {operator : UnaryOperator} {operand : Reader Expr} :
    Starts c (signed sign operator operand) (· == .mark sign) := by
  unfold signed
  infer_instance

end

section
variable [hs : sub.Settled c] [hc : c.IsPlain]

instance starts_text : Starts c (sub .text) (· == .text) := by
  refine starts_of_rule rfl ?_
  change Starts c (textRule sub) _
  unfold textRule
  infer_instance

instance starts_display : Starts c (display sub) fun kind =>
    kind == .mark .openParen || kind == .mark .openBracket || kind == .mark .openBrace where
  misses hword hfirst := by
    obtain ⟨token, htoken, rfl⟩ := exists_token hword
    refine (reads_peek htoken).bind_misses fun w hw => ?_
    obtain rfl : w = token := hw
    simp only [Bool.or_eq_false_iff, beq_eq_false_iff_ne] at hfirst
    have hkind : w.word.kind = w.kind := rfl
    rw [hkind] at hfirst
    split
    · next h => exact absurd h hfirst.1.1
    · next h => exact absurd h hfirst.1.2
    · next h => exact absurd h hfirst.2
    · exact fun _ => rfl

instance starts_constantForm : Starts c constantForm fun kind =>
    kind == .keyword .true_ || (kind == .keyword .false_ || kind == .keyword .none_) := by
  unfold constantForm
  infer_instance

instance starts_numberForm : Starts c numberForm (· == .number) := by
  unfold numberForm
  infer_instance

instance starts_atom : Starts c (atom sub) Token.Kind.opens := by
  unfold atom
  refine Starts.weaken inferInstance fun kind h => ?_
  simp only [Token.Kind.opens, Token.Kind.openers] at h
  simp_all

instance starts_primary : Starts c (sub .primary) Token.Kind.opens := by
  refine starts_of_rule rfl ?_
  change Starts c (primaryRule sub) _
  unfold primaryRule
  infer_instance

instance starts_awaited : Starts c (awaited sub) Token.Kind.opens := by
  unfold awaited
  refine Starts.weaken inferInstance fun kind h => ?_
  simp_all [Token.Kind.opens, Token.Kind.openers]

instance starts_power : Starts c (power sub) Token.Kind.opens := by
  unfold power
  infer_instance

instance starts_factor : Starts c (sub .factor) Token.Kind.opens := by
  refine starts_of_rule rfl ?_
  change Starts c (factorRule sub) _
  unfold factorRule
  refine Starts.weaken inferInstance fun kind h => ?_
  simp_all [Token.Kind.opens, Token.Kind.openers]

instance starts_bitwiseOr : Starts c (sub .bitwiseOr) Token.Kind.opens := by
  refine starts_of_rule rfl ?_
  change Starts c (bitwiseOrRule sub) _
  unfold bitwiseOrRule bitwiseXor bitwiseAnd shift sum term
  infer_instance

instance starts_inversion : Starts c (sub .inversion) Token.Kind.opens := by
  refine starts_of_rule rfl ?_
  change Starts c (inversionRule sub) _
  unfold inversionRule comparison
  refine Starts.weaken inferInstance fun kind h => ?_
  simp_all [Token.Kind.opens, Token.Kind.openers]

instance starts_disjunction : Starts c (sub .disjunction) Token.Kind.opens := by
  refine starts_of_rule rfl ?_
  change Starts c (disjunctionRule sub) _
  unfold disjunctionRule
  infer_instance

instance starts_expressionRule : Starts c (sub .expression) Token.Kind.opens := by
  refine starts_of_rule rfl ?_
  change Starts c (expressionRule sub) _
  unfold expressionRule faultlessExpression conditional lambda
  refine Starts.weaken inferInstance fun kind h => ?_
  simp_all [Token.Kind.opens, Token.Kind.openers]

end

/-! ## From operands to expressions -/

section
variable [hs : sub.Settled c] {i j k l : Nat} {e : Expr}

lemma reads_factor (hi : c.Meets Token.Kind.operands i) (hj : c.Meets Token.Kind.operandStops j)
    (h : (sub .primary).Reads c i e j) : (sub .factor).Reads c i e j := by
  have power : (power sub).Reads c i e j := by
    refine (reads_here hi.lt_size).bind fun start _ => ?_
    refine Reads.bind (v := e) ((hi.misses rfl).orElse_reads h) fun base hbase => ?_
    refine (Misses.optional (hj.misses rfl)).bind fun exponent hexponent => ?_
    cases exponent with
    | none => exact .pure hbase
    | some => cases hexponent
  refine hs.reads rfl (Nat.le_of_lt hi.lt_size) ?_
  exact (hi.misses rfl).orElse_reads
    ((hi.misses rfl).orElse_reads ((hi.misses rfl).orElse_reads power))

omit hs in
lemma reads_leftGrouped {operand : Reader Expr} {operator : Reader BinaryOperator}
    {kinds : List Token.Kind} {first : Token.Kind → Bool} [Starts c operator first]
    (hi : i < c.source.tokens.size) (hj : c.Meets kinds j) (h : operand.Reads c i e j)
    (hfirst : kinds.all (!first ·) = true) : (leftGrouped operand operator).Reads c i e j := by
  refine (reads_here hi).bind fun start _ => h.bind fun found hfound => ?_
  exact (Steps.stop fun _ _ => (hj.misses hfirst).bind).iterate hfound (Nat.le_of_lt hj.lt_size)

lemma reads_bitwiseOr (hi : c.Meets Token.Kind.operands i)
    (hj : c.Meets Token.Kind.operandStops j) (h : (sub .primary).Reads c i e j) :
    (sub .bitwiseOr).Reads c i e j := by
  have grouped {operand : Reader Expr} {operator : Reader BinaryOperator}
      {first : Token.Kind → Bool} [Starts c operator first]
      (hfirst : Token.Kind.operandStops.all (!first ·) = true) (h : operand.Reads c i e j) :
      (leftGrouped operand operator).Reads c i e j := reads_leftGrouped hi.lt_size hj h hfirst
  refine hs.reads rfl (Nat.le_of_lt hi.lt_size) ?_
  exact grouped rfl (grouped rfl (grouped rfl (grouped rfl (grouped rfl (grouped rfl
    (reads_factor hi hj h))))))

instance starts_related {relation : Relation} {sign : Reader Unit} {first : Token.Kind → Bool}
    [Starts c sign first] : Starts c (related sub relation sign) first := by
  unfold related
  infer_instance

instance starts_link : Starts c (link sub) Token.Kind.links.contains := by
  unfold link
  refine Starts.weaken inferInstance fun kind h => ?_
  simp_all [Token.Kind.links]

omit hs in
lemma reads_comparison (hi : i < c.source.tokens.size) (hj : c.Meets Token.Kind.testStops j)
    (h : (sub .bitwiseOr).Reads c i e j) : (comparison sub).Reads c i e j := by
  refine (reads_here hi).bind fun start _ => h.bind fun first hfirst => ?_
  have none : (many (link sub)).Reads c j [] j :=
    (Repeats.stop (hj.misses rfl)).many (Nat.le_of_lt hj.lt_size)
  refine none.bind fun links hlinks => ?_
  obtain rfl : links = [] := List.map_eq_nil_iff.mp hlinks
  exact .pure hfirst

omit hs in
/-- A comparison that says that two things are the same. -/
lemma reads_comparison_same {first second : Expr} (hi : i < c.source.tokens.size)
    (h : (sub .bitwiseOr).Reads c i first j) (hj : c.wordAt j = some (Token.Kind.keyword .is_).word)
    (hj' : c.Meets Token.Kind.operands (j + 1)) (h' : (sub .bitwiseOr).Reads c (j + 1) second k)
    (hjk : j < k) (hk : c.Meets Token.Kind.testStops k) :
    (comparison sub).Reads c i (.mk default (.comparison first [.mk .same second])) k := by
  have his : c.Meets [.keyword .is_] j := ⟨_, hj, List.mem_singleton_self _⟩
  have same : (related sub .same (discard (word .is_))).Reads c j (.mk .same second) k :=
    (reads_discard_take hj rfl).bind fun _ _ => h'.bind fun operand hoperand =>
      .pure (congrArg (Link.mk .same) hoperand)
  have notSame : (related sub .notSame (do discard (word .is_); discard (word .not_))).Misses c j :=
    Misses.bind ((reads_discard_take hj rfl).bind_misses fun _ _ => (hj'.misses rfl).discard)
  have link : (link sub).Reads c j (.mk .same second) k :=
    (his.misses rfl).orElse_reads <| (his.misses rfl).orElse_reads <|
      (his.misses rfl).orElse_reads <| (his.misses rfl).orElse_reads <|
      (his.misses rfl).orElse_reads <| (his.misses rfl).orElse_reads <|
      (his.misses rfl).orElse_reads <| (his.misses rfl).orElse_reads <|
      notSame.orElse_reads same
  have links : (many (Grammar.link sub)).Reads c j [.mk .same second] k :=
    (Repeats.go link hjk (.stop (hk.misses rfl))).many (Nat.le_of_lt hk.lt_size)
  refine (reads_here hi).bind fun start _ => h.bind fun found hfound => ?_
  refine links.bind fun more hmore => ?_
  obtain ⟨only, rfl, honly⟩ := List.map_eq_singleton_iff.mp hmore
  refine reads_spanFrom.bind fun span hspan => .pure ?_
  exact congrArg₂ Expr.mk hspan (congrArg₂ Form.comparison hfound (congrArg (· :: []) honly))

lemma reads_joined {kind : Junction} {between : Keyword} {operand : Reader Expr}
    {kinds : List Token.Kind} (hi : i < c.source.tokens.size) (hj : c.Meets kinds j)
    (h : operand.Reads c i e j)
    (hbetween : kinds.all (fun kind => !(kind == .keyword between)) = true) :
    (joined kind between operand).Reads c i e j := by
  refine (reads_here hi).bind fun start _ => h.bind fun first hfirst => ?_
  have none : (many (do discard (word between); operand)).Reads c j [] j :=
    (Repeats.stop (hj.misses hbetween)).many (Nat.le_of_lt hj.lt_size)
  refine none.bind fun more hmore => ?_
  obtain rfl : more = [] := List.map_eq_nil_iff.mp hmore
  exact .pure hfirst

lemma reads_disjunction (hi : c.Meets Token.Kind.operands i) (hj : c.Meets Token.Kind.testStops j)
    (h : (comparison sub).Reads c i e j) : (sub .disjunction).Reads c i e j := by
  have inversion : (sub .inversion).Reads c i e j :=
    hs.reads rfl (Nat.le_of_lt hi.lt_size) ((hi.misses rfl).orElse_reads h)
  exact hs.reads rfl (Nat.le_of_lt hi.lt_size)
    (reads_joined hi.lt_size hj (reads_joined hi.lt_size hj inversion rfl) rfl)

end

section
variable [hs : sub.Settled c] [hc : c.IsPlain] {i j k l : Nat} {e : Expr}

lemma reads_expression (hi : c.Meets Token.Kind.operands i) (hj : c.Meets Token.Kind.stops j)
    (h : (sub .disjunction).Reads c i e j) : (sub .expression).Reads c i e j := by
  have conditional : (conditional sub).Misses c i :=
    Misses.bind ((reads_here hi.lt_size).bind_misses fun _ _ =>
      Misses.bind (h.bind_misses fun _ _ => (hj.misses rfl).discard.bind))
  refine hs.reads rfl (Nat.le_of_lt hi.lt_size) ?_
  exact (misses_faults hc.plain).orElse_reads ((misses_faults hc.plain).orElse_reads
    (conditional.orElse_reads h.orElse))

lemma reads_conditional {condition yes no : Expr} (hi : i < c.source.tokens.size)
    (hyes : (sub .disjunction).Reads c i yes j)
    (hj : c.wordAt j = some (Token.Kind.keyword .if_).word)
    (hcondition : (sub .disjunction).Reads c (j + 1) condition k)
    (hk : c.wordAt k = some (Token.Kind.keyword .else_).word)
    (hno : (sub .expression).Reads c (k + 1) no l) :
    (sub .expression).Reads c i (.mk default (.conditional condition yes no)) l := by
  have conditional :
      (conditional sub).Reads c i (.mk default (.conditional condition yes no)) l := by
    refine Reads.expression ?_ hi
    refine hyes.bind fun yes hyes => (reads_discard_take hj rfl).bind fun _ _ => ?_
    refine hcondition.bind fun condition hcondition => ?_
    refine (reads_discard_take hk rfl).bind fun _ _ => ?_
    refine hno.bind fun no hno => .pure ?_
    rw [← hyes, ← hcondition, ← hno]
    rfl
  refine hs.reads rfl (Nat.le_of_lt hi) ?_
  exact (misses_faults hc.plain).orElse_reads ((misses_faults hc.plain).orElse_reads
    conditional.orElse)

end

end Grammar

end AdjointSynthesis.Code

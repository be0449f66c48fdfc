import AdjointSynthesis.Proofs.Reading.Expressions

/-!
# Reading simple statements

Words that spell an assignment, a call or a return are read as that statement.

A simple statement is looked for among many others.  Calls and conditional expressions begin like
targets of assignments, so that these must be seen to miss them.

* `SpellsTarget`, `SpellsValue`: words that are read on the left and on the right of an assignment.
* `SpellsStatement`: words that are read as a simple statement where a line ends behind them.
-/

namespace AdjointSynthesis.Code.Grammar

open Reader

variable {c : Context} {sub : Grammar} [hs : sub.Settled c] [hc : c.IsPlain] {i j k : Nat}
  {e : Expr}

/-! ## Targets -/

instance starts_extended {r : Reader Expr} {first : Token.Kind → Bool} [Starts c r first] :
    Starts c (extended r) first := by
  unfold extended
  infer_instance

instance starts_targetPrimary : Starts c (sub .targetPrimary) Token.Kind.opens := by
  refine starts_of_rule rfl ?_
  change Starts c (targetPrimaryRule sub) _
  unfold targetPrimaryRule extended
  infer_instance

instance starts_partTarget : Starts c (partTarget sub) Token.Kind.opens := by
  unfold partTarget
  refine Starts.weaken inferInstance fun kind h => ?_
  simp_all

instance starts_targetAtom : Starts c (sub .targetAtom) Token.Kind.opens := by
  refine starts_of_rule rfl ?_
  change Starts c (targetAtomRule sub) _
  unfold targetAtomRule tupleTarget listTarget
  refine Starts.weaken inferInstance fun kind h => ?_
  simp_all [Token.Kind.opens, Token.Kind.openers]

instance starts_starTarget : Starts c (sub .starTarget)
    fun kind => kind == .mark .star || kind.opens := by
  refine starts_of_rule rfl ?_
  change Starts c (starTargetRule sub) _
  unfold starTargetRule
  infer_instance

instance starts_singleTarget : Starts c (sub .singleTarget) Token.Kind.opens := by
  refine starts_of_rule rfl ?_
  change Starts c (singleTargetRule sub) _
  unfold singleTargetRule
  refine Starts.weaken inferInstance fun kind h => ?_
  simp_all [Token.Kind.opens, Token.Kind.openers]

instance starts_annotatedTarget : Starts c (annotatedTarget sub) Token.Kind.opens := by
  unfold annotatedTarget
  refine Starts.weaken inferInstance fun kind h => ?_
  simp_all [Token.Kind.opens, Token.Kind.openers]

instance starts_assignedTarget : Starts c (assignedTarget sub)
    fun kind => kind == .mark .star || kind.opens := by
  unfold assignedTarget starTargets
  infer_instance

instance starts_extensionAhead : Starts c extensionAhead
    fun kind => kind == .mark .openParen || (kind == .mark .openBracket || kind == .mark .dot) := by
  unfold extensionAhead
  infer_instance

omit hc in
/-- An atom that nothing extends is no part of a value. -/
lemma misses_partTarget (hi : i < c.source.tokens.size) (h : (atom sub).Reads c i e j)
    (hj : c.Meets Token.Kind.operandStops j) : (partTarget sub).Misses c i := by
  have primary : (sub .targetPrimary).Misses c i := by
    refine hs.misses rfl (Nat.le_of_lt hi) ((reads_here hi).bind_misses fun _ _ => Misses.bind ?_)
    exact h.bind_misses fun _ _ => Misses.bind (hj.misses rfl).ahead
  exact (reads_here hi).bind_misses fun _ _ => primary.bind.orElse primary.bind

omit hs hc in
/-- What is called is no part of a value. -/
lemma misses_partTarget_of_called (hi : i < c.source.tokens.size)
    (h : (sub .targetPrimary).Reads c i e j) (hj : c.Meets [.mark .openParen] j) :
    (partTarget sub).Misses c i := by
  refine (reads_here hi).bind_misses fun _ _ => Misses.orElse ?_ ?_
  · exact h.bind_misses fun _ _ => Misses.bind (hj.misses rfl)
  · exact h.bind_misses fun _ _ => Misses.bind (hj.misses rfl)

/-! ### Values that begin with a name -/

omit hs hc in
/-- One value with no comma behind it. -/
lemma reads_tupled {r : Reader Expr} {kinds : List Token.Kind} (hi : i < c.source.tokens.size)
    (h : r.Reads c i e j) (hj : c.Meets kinds j)
    (hkinds : kinds.all (!· == .mark .comma) = true) : (tupled r).Reads c i e j := by
  have hcomma : (mark .comma).Misses c j := hj.misses hkinds
  refine (reads_here hi).bind fun start _ => h.bind fun first hfirst => ?_
  have no_more : (many (do discard (mark .comma); r)).Reads c j [] j :=
    (Repeats.stop hcomma.discard.bind).many (Nat.le_of_lt hj.lt_size)
  refine no_more.bind fun more hmore => ?_
  refine hcomma.optional.bind fun trailing htrailing => ?_
  obtain rfl : more = [] := List.map_eq_nil_iff.mp hmore
  obtain rfl : trailing = none := Option.map_eq_none_iff.mp htrailing
  exact .pure hfirst

omit hc in
/-- A name that no part of a value begins with is no target if no equals sign is behind it. -/
lemma misses_assignedTarget_of_name {written : List Char} {kinds : List Token.Kind}
    (h : c.wordAt i = some (nameWord written)) (hj : c.Meets kinds (i + 1))
    (hkinds : kinds.all (fun kind => !(kind == .mark .comma) && !(kind == .mark .assign)) = true)
    (hpart : (partTarget sub).Misses c i) : (assignedTarget sub).Misses c i := by
  have hi := Context.lt_size_of_wordAt h
  have hname : c.Meets [.name] i := ⟨_, h, List.mem_singleton_self _⟩
  have hnot := List.all_eq_true.mp hkinds
  have atom : (sub .targetAtom).Reads c i (nameTree written) (i + 1) :=
    hs.reads rfl (Nat.le_of_lt hi) (hpart.orElse_reads (reads_nameExpression h).orElse)
  have target : (sub .starTarget).Reads c i (nameTree written) (i + 1) :=
    hs.reads rfl (Nat.le_of_lt hi) ((hname.misses rfl).orElse_reads atom)
  have targets := reads_tupled hi target hj
    (List.all_eq_true.mpr fun kind hkind => (Bool.and_eq_true_iff.mp (hnot kind hkind)).1)
  refine targets.bind_misses fun _ _ => (hj.misses ?_).discard.bind
  exact List.all_eq_true.mpr fun kind hkind => (Bool.and_eq_true_iff.mp (hnot kind hkind)).2

section
variable {first : List Word × Expr} {rest : List (List Word × Expr)} {trailing : Bool}

omit hs hc in
lemma reads_extended {r : Reader Expr} (h : r.Reads c i e j)
    (hj : c.Meets [.mark .openParen, .mark .dot] j) : (extended r).Reads c i e j := by
  refine h.bind fun found hfound => ?_
  have hahead : (Reader.ahead extensionAhead).Reads c j () j := by
    obtain ⟨word, hword, hkind⟩ := hj
    obtain ⟨token, htoken, rfl⟩ := exists_token hword
    simp only [List.mem_cons, List.not_mem_nil, or_false] at hkind
    rcases hkind with hkind | hkind
    · exact (reads_take htoken hkind).orElse.ahead
    · have hdot : c.Meets [.mark .dot] j := ⟨_, hword, List.mem_singleton.mpr hkind⟩
      exact ((hdot.misses rfl).orElse_reads ((hdot.misses rfl).orElse_reads
        (reads_take htoken hkind))).ahead
  exact hahead.bind fun _ _ => .pure hfound

/-- A call that nothing extends is no step from a value to one that is extended. -/
lemma misses_extension (hfirst : SpellsExpression sub c first.1 first.2)
    (hrest : ∀ item ∈ rest, SpellsExpression sub c item.1 item.2) (start : Place) (value : Expr)
    (hshows : c.Shows i (bracketed first.1 (rest.map Prod.fst) trailing))
    (hstop : c.Meets Token.Kind.operandStops
      (i + (bracketed first.1 (rest.map Prod.fst) trailing).length)) :
    (extended (attributeOf start value) <|> extended (subscriptOf sub start value) <|>
      extended (callOf sub start value)).Misses c i := by
  have hopen : c.Meets [.mark .openParen] i := hshows.meets (List.mem_singleton_self _)
  refine (hopen.misses rfl).orElse ((hopen.misses rfl).orElse ?_)
  exact (reads_callOf hfirst hrest rfl hshows).bind_misses fun _ _ =>
    Misses.bind (hstop.misses rfl).ahead

/-- A call of a name that nothing extends begins with no target. -/
lemma misses_assignedTarget_call (function : List Char)
    (hfirst : SpellsExpression sub c first.1 first.2)
    (hrest : ∀ item ∈ rest, SpellsExpression sub c item.1 item.2)
    (hshows : c.Shows i (nameWord function :: bracketed first.1 (rest.map Prod.fst) trailing))
    (hstop : c.Meets Token.Kind.operandStops
      (i + (nameWord function :: bracketed first.1 (rest.map Prod.fst) trailing).length)) :
    (assignedTarget sub).Misses c i ∧ (partTarget sub).Misses c i := by
  have hi := Context.lt_size_of_wordAt hshows.wordAt
  have hopen : c.Meets [.mark .openParen] (i + 1) :=
    hshows.tail.meets (List.mem_singleton_self _)
  rw [List.length_cons, Nat.add_comm _ 1, ← Nat.add_assoc] at hstop
  have primary : (sub .targetPrimary).Reads c i (nameTree function) (i + 1) := by
    refine hs.reads rfl (Nat.le_of_lt hi) ((reads_here hi).bind fun start _ => ?_)
    refine (reads_extended (reads_nameExpression hshows.wordAt).orElse
      (hopen.mono (by simp))).bind fun value hvalue => ?_
    exact (Steps.stop fun w _ => misses_extension hfirst hrest start w hshows.tail hstop).iterate
      hvalue (Nat.le_of_lt hopen.lt_size)
  have part := misses_partTarget_of_called hi primary hopen
  exact ⟨misses_assignedTarget_of_name hshows.wordAt hopen rfl part, part⟩

/-- A call of an attribute of a name that nothing extends begins with no target. -/
lemma misses_assignedTarget_attributeCall (value part : List Char)
    (hfirst : SpellsExpression sub c first.1 first.2)
    (hrest : ∀ item ∈ rest, SpellsExpression sub c item.1 item.2)
    (hshows : c.Shows i (nameWord value :: (Token.Kind.mark .dot).word :: nameWord part ::
      bracketed first.1 (rest.map Prod.fst) trailing))
    (hstop : c.Meets Token.Kind.operandStops (i + (nameWord value ::
      (Token.Kind.mark .dot).word :: nameWord part ::
        bracketed first.1 (rest.map Prod.fst) trailing).length)) :
    (assignedTarget sub).Misses c i := by
  have hi := Context.lt_size_of_wordAt hshows.wordAt
  have hdot : c.Meets [.mark .dot] (i + 1) := hshows.tail.meets (List.mem_singleton_self _)
  have hattribute : c.Shows (i + 1) [(Token.Kind.mark .dot).word, nameWord part] :=
    Context.Shows.left hshows.tail
  have hcall := hshows.tail.tail.tail
  have hopen : c.Meets [.mark .openParen] (i + 1 + 2) :=
    hcall.meets (List.mem_singleton_self _)
  simp only [List.length_cons] at hstop
  rw [show ∀ n, i + (n + 1 + 1 + 1) = i + 1 + 2 + n by omega] at hstop
  have primary : (sub .targetPrimary).Reads c i (attributeTree (nameTree value) part)
      (i + 1 + 2) := by
    refine hs.reads rfl (Nat.le_of_lt hi) ((reads_here hi).bind fun start _ => ?_)
    refine (reads_extended (reads_nameExpression hshows.wordAt).orElse
      (hdot.mono (by simp))).bind fun found hfound => ?_
    refine (Steps.go (fun w hw => Reads.orElse ?_) (by omega) (.stop fun w _ =>
      misses_extension hfirst hrest start w hcall hstop)).iterate hfound (Nat.le_of_lt hopen.lt_size)
    exact reads_extended (reads_attributeOf hw hattribute) (hopen.mono (by simp))
  exact misses_assignedTarget_of_name hshows.wordAt hdot rfl
    (misses_partTarget_of_called hi primary hopen)

end

/-! ### No statements with a block -/

omit hs hc in
instance starts_behindWord {α : Type} {words : List Token.Kind} {r : Reader α} :
    Starts c (behindWord words r) words.contains where
  misses hword hfirst := by
    obtain ⟨token, htoken, rfl⟩ := exists_token hword
    refine (reads_peek htoken).bind_misses fun found hfound => ?_
    obtain rfl : found = token := hfound
    have hnot : words.contains found.kind = false := hfirst
    rw [if_neg (Bool.eq_false_iff.mp hnot)]
    exact fun _ => rfl

instance starts_softWord {written : List Char} : Starts c (softWord written) (· == .name) := by
  unfold softWord
  infer_instance

instance starts_subject : Starts c (subject sub) fun kind => kind == .mark .star || kind.opens := by
  unfold subject
  refine Starts.weaken inferInstance fun kind h => ?_
  simp_all

instance starts_matchStatement : Starts c (matchStatement sub) (· == .name) := by
  unfold matchStatement
  refine Starts.weaken inferInstance fun kind h => ?_
  simp_all

omit hs in
/-- A name begins no match if what follows it is no subject or takes up the rest of the line. -/
lemma misses_matchStatement {written : List Char} (h : c.wordAt i = some (nameWord written))
    (hsubject : (subject sub).Misses c (i + 1) ∨
      ∃ e j, (subject sub).Reads c (i + 1) e j ∧ c.Meets [.newline] j) :
    (matchStatement sub).Misses c i := by
  have hi := Context.lt_size_of_wordAt h
  obtain ⟨token, htoken, hword⟩ := exists_token h
  have name : nameToken.Reads c i token (i + 1) := reads_take htoken (congrArg Word.kind hword)
  refine Misses.orElse ?_ (misses_faults hc.plain)
  by_cases hmatch : token.written = "match".toList
  · have soft : (softWord "match".toList).Reads c i token (i + 1) := by
      refine name.bind fun found hfound => ?_
      obtain rfl : found = token := hfound
      rw [if_pos hmatch]
      exact .pure rfl
    refine Misses.statement (soft.discard.bind_misses fun _ _ => ?_) hi
    rcases hsubject with hmisses | ⟨e, j, hreads, hstop⟩
    · exact hmisses.bind
    · exact hreads.bind_misses fun _ _ => (hstop.misses rfl).discard.bind
  · have soft : (softWord "match".toList).Misses c i := by
      refine name.bind_misses fun found hfound => ?_
      obtain rfl : found = token := hfound
      rw [if_neg hmatch]
      exact fun _ => rfl
    exact Misses.statement soft.discard.bind hi

omit hs hc in
/-- Where no statement with a block begins. -/
lemma misses_compoundStatement {kinds : List Token.Kind} (h : c.Meets kinds i)
    (hkinds : kinds ⊆ Token.Kind.blockless) (hmatch : (matchStatement sub).Misses c i) :
    (compoundStatement sub).Misses c i := by
  have hnot {words : List Token.Kind} (hwords : ∀ kind ∈ Token.Kind.blockless, kind ∉ words)
      {r : Reader Stmt} : (behindWord words r).Misses c i :=
    h.misses (List.all_eq_true.mpr fun kind hkind => by simp [hwords kind (hkinds hkind)])
  exact (hnot (by decide)).orElse <| (hnot (by decide)).orElse <| (hnot (by decide)).orElse <|
    (hnot (by decide)).orElse <| (hnot (by decide)).orElse <| (hnot (by decide)).orElse <|
    (hnot (by decide)).orElse hmatch

/-! ### Names and tuples of names -/

/-- Words that spell a target of an assignment which takes no annotation. -/
structure SpellsTarget (sub : Grammar) (c : Context) (words : List Word) (e : Expr) : Prop where
  target : Spells (sub .starTarget) c [.mark .assign] words e
  not_annotated : ∀ i, c.Shows i words → c.Meets [.mark .assign] (i + words.length) →
    (do annotationOf sub (← nameExpression) true).Misses c i ∧ (annotatedTarget sub).Misses c i
  not_compound : ∀ i, c.Shows i words → c.Meets [.mark .assign] (i + words.length) →
    (compoundStatement sub).Misses c i

section
variable {written : List Char}

omit hc in
lemma reads_nameTargets (h : c.wordAt i = some (nameWord written))
    (hj : c.Meets Token.Kind.operandStops (i + 1)) :
    (sub .targetAtom).Reads c i (nameTree written) (i + 1) ∧
      (sub .singleTarget).Reads c i (nameTree written) (i + 1) ∧ (partTarget sub).Misses c i := by
  have hi := Context.lt_size_of_wordAt h
  have hpart : (partTarget sub).Misses c i := misses_partTarget hi (reads_nameExpression h).orElse hj
  exact ⟨hs.reads rfl (Nat.le_of_lt hi) (hpart.orElse_reads (reads_nameExpression h).orElse),
    hs.reads rfl (Nat.le_of_lt hi) (hpart.orElse_reads (reads_nameExpression h).orElse), hpart⟩

omit hc in
lemma spells_nameTarget (written : List Char) :
    Spells (sub .starTarget) c Token.Kind.operandStops [nameWord written] (nameTree written) := by
  intro i hshows hstop
  have hname : c.Meets [.name] i := hshows.meets (List.mem_singleton_self _)
  exact hs.reads rfl (Nat.le_of_lt hname.lt_size)
    ((hname.misses rfl).orElse_reads (reads_nameTargets hshows.wordAt hstop).1)

end

/-- A name with its words. -/
def nameItem (written : List Char) : List Word × Expr := ([nameWord written], nameTree written)

/-- The words of names in a tuple. -/
def nameTupleWords (first : List Char) (rest : List (List Char)) : List Word :=
  tupleWords (nameItem first).1 ((rest.map nameItem).map Prod.fst)

/-- Names in a tuple as an expression. -/
def nameTupleTree (first : List Char) (rest : List (List Char)) : Expr :=
  tupleTree ((nameItem first).2 :: (rest.map nameItem).map Prod.snd)

lemma spellsExpression_nameItem (written : List Char) :
    SpellsExpression sub c (nameItem written).1 (nameItem written).2 :=
  (spellsOperand_name written).expression

lemma spellsExpression_of_mem_names {rest : List (List Char)} :
    ∀ item ∈ rest.map nameItem, SpellsExpression sub c item.1 item.2 := by
  intro item hitem
  obtain ⟨written, -, rfl⟩ := List.mem_map.mp hitem
  exact spellsExpression_nameItem written

section
variable {first : List Char} {rest : List (List Char)}

omit hs hc in
/-- What stands where in names in a tuple. -/
lemma shows_nameTuple (hshows : c.Shows i (nameTupleWords first rest)) :
    c.Shows i [(Token.Kind.mark .openParen).word, nameWord first] ∧
      c.Meets [.mark .comma] (i + 2) ∧
      c.Shows (i + 2) (behindCommas ((rest.map nameItem).map Prod.fst) ++
        (trailingComma rest.isEmpty ++ [(Token.Kind.mark .closeParen).word])) := by
  rw [nameTupleWords, tupleWords, bracketed, listed, List.append_assoc, List.isEmpty_map,
    List.isEmpty_map] at hshows
  have hbehind : c.Shows (i + 2) (behindCommas ((rest.map nameItem).map Prod.fst) ++
      (trailingComma rest.isEmpty ++ [(Token.Kind.mark .closeParen).word])) := hshows.tail.tail
  have hopen : c.Shows i [(Token.Kind.mark .openParen).word, nameWord first] :=
    Context.Shows.left hshows
  refine ⟨hopen, ?_, hbehind⟩
  cases rest with
  | nil => exact hbehind.meets (List.mem_singleton_self _)
  | cons second more => exact hbehind.meets (List.mem_singleton_self _)

lemma length_nameTupleWords (first : List Char) (rest : List (List Char)) :
    (nameTupleWords first rest).length =
      2 + (behindCommas ((rest.map nameItem).map Prod.fst)).length +
        (trailingComma rest.isEmpty).length + 1 := by
  rw [nameTupleWords, tupleWords, length_bracketed, listed, List.isEmpty_map, List.isEmpty_map,
    List.length_append, nameItem, List.length_singleton]
  omega

omit hs hc in
/-- Behind the last of several names stands a comma exactly if it is the only one. -/
lemma reads_lastComma (h : c.Shows i (trailingComma rest.isEmpty ++
    [(Token.Kind.mark .closeParen).word])) :
    ∃ comma : Option Token, (rest = [] → comma.isSome) ∧
      (Reader.optional (mark .comma)).Reads c i comma (i + (trailingComma rest.isEmpty).length) := by
  cases rest with
  | nil =>
    obtain ⟨token, htoken, hword⟩ := exists_token h.wordAt
    exact ⟨some token, fun _ => rfl, (reads_take htoken (congrArg Word.kind hword)).optional⟩
  | cons second more =>
    have hclose : c.Meets [.mark .closeParen] i := h.meets (List.mem_singleton_self _)
    exact ⟨none, nofun, (hclose.misses rfl).optional⟩

omit hc in
lemma reads_tupleTarget (hshows : c.Shows i (nameTupleWords first rest)) :
    (tupleTarget sub).Reads c i (nameTupleTree first rest)
      (i + (nameTupleWords first rest).length) := by
  obtain ⟨hopen, hcomma, hbehind⟩ := shows_nameTuple hshows
  have hi := Context.lt_size_of_wordAt hopen.wordAt
  have hend := hbehind.append
  have hcommas : .mark .comma ∈ Token.Kind.operandStops := by decide
  have row := repeats_behindCommas (r := sub .starTarget) hcommas
    (fun item hitem => by
      obtain ⟨written, -, rfl⟩ := List.mem_map.mp hitem
      exact spells_nameTarget written)
    hbehind.left ((meets_trailingComma hend).mono Token.Kind.itemStops_subset_operandStops)
    (misses_trailingComma hend rfl)
  have firstTarget : (sub .starTarget).Reads c (i + 1) (nameTree first) (i + 2) :=
    spells_nameTarget first (i + 1) hopen.tail (hcomma.mono (by decide))
  obtain ⟨comma, hcommaSome, readsComma⟩ := reads_lastComma hend
  have hclose := hend.append
  have hlength : i + (nameTupleWords first rest).length =
      i + 2 + (behindCommas ((rest.map nameItem).map Prod.fst)).length +
        (trailingComma rest.isEmpty).length + 1 := by
    rw [length_nameTupleWords]
    omega
  rw [hlength]
  refine Reads.expression ((reads_discard_take hopen.wordAt rfl).bind fun _ _ => ?_) hi
  refine Reads.bind (v := some (nameTree first :: (rest.map nameItem).map Prod.snd))
    (Reads.optional ?_) fun found hfound =>
      (reads_discard_take hclose.wordAt rfl).bind fun _ _ => .pure ?_
  · refine firstTarget.bind fun head hhead => ?_
    refine (row.many (Nat.le_of_lt (meets_trailingComma hend).lt_size)).bind fun more hmore => ?_
    refine readsComma.bind fun found hfound => ?_
    obtain rfl : found = comma := by cases found <;> exact hfound
    have hsome : (more.isEmpty && found.isNone) = false := by
      cases rest with
      | nil => simp [hcommaSome rfl]
      | cons second others =>
        have : more ≠ [] := by
          rintro rfl
          cases hmore
        simp [this]
    rw [if_neg (by simp [hsome])]
    exact .pure (congrArg₂ List.cons hhead hmore)
  · obtain ⟨values, rfl, hvalues⟩ := Option.map_eq_some_iff.mp hfound
    refine congrArg Form.tuple ?_
    rw [Option.getD_some, seenIn_eq_map]
    exact hvalues

lemma spellsTarget_name (written : List Char) :
    SpellsTarget sub c [nameWord written] (nameTree written) where
  target i hshows hstop := spells_nameTarget written i hshows (hstop.mono (by decide))
  not_annotated i hshows hstop := by
    have hname : c.Meets [.name] i := hshows.meets (List.mem_singleton_self _)
    have hpart : (partTarget sub).Misses c i :=
      (reads_nameTargets hshows.wordAt (hstop.mono (by decide))).2.2
    constructor
    · exact (reads_nameExpression hshows.wordAt).bind_misses fun _ _ =>
        (hstop.misses rfl).discard.bind
    · exact (hname.misses rfl).discard.bind.orElse hpart
  not_compound i hshows hstop := by
    have hname : c.Meets [.name] i := hshows.meets (List.mem_singleton_self _)
    exact misses_compoundStatement hname (by decide)
      (misses_matchStatement hshows.wordAt (.inl (hstop.misses rfl)))

lemma spellsTarget_nameTuple (first : List Char) (rest : List (List Char)) :
    SpellsTarget sub c (nameTupleWords first rest) (nameTupleTree first rest) := by
  -- as a value the names are a tuple, of which no attribute or subscript follows
  have part {i : Nat} (hshows : c.Shows i (nameTupleWords first rest))
      (hstop : c.Meets [.mark .assign] (i + (nameTupleWords first rest).length)) :
      (partTarget sub).Misses c i := by
    have hopen : c.Meets [.mark .openParen] i := (shows_nameTuple hshows).1.meets (by decide)
    have tuple : (atom sub).Reads c i _ _ := reads_atom_bracketed (spellsExpression_nameItem first)
      spellsExpression_of_mem_names hshows
    exact misses_partTarget hopen.lt_size tuple (hstop.mono (by decide))
  -- as one target in brackets the first name would need the bracket behind it
  have group {i : Nat} (hshows : c.Shows i (nameTupleWords first rest)) {r : Reader Expr}
      (h : r.Reads c (i + 1) (nameTree first) (i + 2)) : (do
        discard (mark .openParen)
        let found ← r
        discard (mark .closeParen)
        return found).Misses c i := by
    obtain ⟨hopen, hcomma, -⟩ := shows_nameTuple hshows
    exact (reads_discard_take hopen.wordAt rfl).bind_misses fun _ _ =>
      h.bind_misses fun _ _ => (hcomma.misses rfl).discard.bind
  have targets {i : Nat} (hshows : c.Shows i (nameTupleWords first rest)) :
      (sub .targetAtom).Reads c (i + 1) (nameTree first) (i + 2) ∧
        (sub .singleTarget).Reads c (i + 1) (nameTree first) (i + 2) := by
    obtain ⟨hopen, hcomma, -⟩ := shows_nameTuple hshows
    exact And.imp_right And.left
      (reads_nameTargets hopen.tail.wordAt (hcomma.mono (by decide)))
  constructor
  · intro i hshows hstop
    have hopen : c.Meets [.mark .openParen] i := (shows_nameTuple hshows).1.meets (by decide)
    refine hs.reads rfl (Nat.le_of_lt hopen.lt_size) ((hopen.misses rfl).orElse_reads ?_)
    refine hs.reads rfl (Nat.le_of_lt hopen.lt_size) ?_
    exact (part hshows hstop).orElse_reads ((hopen.misses rfl).orElse_reads
      ((group hshows (targets hshows).1).orElse_reads (reads_tupleTarget hshows).orElse))
  · intro i hshows hstop
    have hopen : c.Meets [.mark .openParen] i := (shows_nameTuple hshows).1.meets (by decide)
    exact ⟨(hopen.misses rfl).bind,
      (group hshows (targets hshows).2).orElse (part hshows hstop)⟩
  · intro i hshows hstop
    have hopen : c.Meets [.mark .openParen] i := (shows_nameTuple hshows).1.meets (by decide)
    exact misses_compoundStatement hopen (by decide) (hopen.misses rfl)

end

/-! ## Statements without a block -/

omit hs hc in
lemma reads_settle {α : Type} [Placed α] {r : Reader (Option α)} {v : α}
    (h : r.Reads c i (some v) j) : (settle r).Reads c i v j := by
  refine h.bind fun found hfound => ?_
  obtain ⟨value, rfl, hvalue⟩ := Option.map_eq_some_iff.mp hfound
  exact .pure hvalue

omit hs hc in
lemma reads_unsettled {α : Type} [Placed α] {r : Reader α} {v : α} (h : r.Reads c i v j) :
    (unsettled r).Reads c i (some v) j :=
  h.bind fun _ hfound => .pure (congrArg some hfound)

instance starts_augmentation : Starts c augmentation
    fun kind => match kind with | .mark (.augmented _) => true | _ => false where
  misses hword hfirst := by
    obtain ⟨token, htoken, rfl⟩ := exists_token hword
    refine (reads_peek htoken).bind_misses fun found hfound => ?_
    obtain rfl : found = token := hfound
    split
    · next operator hkind =>
      rw [show found.word.kind = .mark (.augmented operator) from hkind] at hfirst
      cases hfirst
    · exact fun _ => rfl

/-- Words that spell a value which no target begins with. -/
structure SpellsValue (sub : Grammar) (c : Context) (words : List Word) (e : Expr) : Prop where
  expression : SpellsExpression sub c words e
  not_assigned : ∀ i, c.Shows i words → c.Meets [.newline] (i + words.length) →
    (assignedTarget sub).Misses c i

omit hc in
lemma SpellsExpression.starExpression {words : List Word} (h : SpellsExpression sub c words e) :
    Spells (sub .starExpression) c Token.Kind.stops words e := by
  intro i hshows hstop
  have hi := (h.plainly i hshows hstop).meets
  exact hs.reads rfl (Nat.le_of_lt hi.lt_size)
    ((hi.misses rfl).orElse_reads (h.expression i hshows hstop))

omit hc in
lemma SpellsExpression.starExpressions {words : List Word} (h : SpellsExpression sub c words e) :
    Spells (starExpressions sub) c [.newline] words e := by
  intro i hshows hstop
  have hstops : c.Meets Token.Kind.stops _ := hstop.mono (by decide)
  exact reads_tupled (h.plainly i hshows hstops).meets.lt_size (h.starExpression i hshows hstops)
    hstop rfl

lemma spellsValue_name (written : List Char) :
    SpellsValue sub c [nameWord written] (nameTree written) where
  expression := (spellsOperand_name written).expression
  not_assigned i hshows hstop :=
    misses_assignedTarget_of_name hshows.wordAt hstop rfl
      (reads_nameTargets hshows.wordAt (hstop.mono (by decide))).2.2

section
variable {first : List Word × Expr} {rest : List (List Word × Expr)}

lemma spellsValue_call (function : List Char) (hfirst : SpellsExpression sub c first.1 first.2)
    (hrest : ∀ item ∈ rest, SpellsExpression sub c item.1 item.2) (trailing : Bool) :
    SpellsValue sub c (nameWord function :: bracketed first.1 (rest.map Prod.fst) trailing)
      (callTree (nameTree function) (first.2 :: rest.map Prod.snd)) where
  expression := (spellsOperand_call function hfirst hrest trailing).expression
  not_assigned i hshows hstop :=
    (misses_assignedTarget_call function hfirst hrest hshows (hstop.mono (by decide))).1

/-- A call of an attribute, if a condition holds. -/
lemma spellsValue_conditional (value part : List Char)
    (hfirst : SpellsExpression sub c first.1 first.2)
    (hrest : ∀ item ∈ rest, SpellsExpression sub c item.1 item.2) {trailing : Bool}
    {words noWords : List Word} {condition no : Expr}
    (hcondition : Spells (sub .disjunction) c Token.Kind.testStops words condition)
    (hno : SpellsExpression sub c noWords no) :
    SpellsValue sub c
      (conditionalWords (nameWord value :: (Token.Kind.mark .dot).word :: nameWord part ::
        bracketed first.1 (rest.map Prod.fst) trailing) words noWords)
      (conditionalTree condition
        (callTree (attributeTree (nameTree value) part) (first.2 :: rest.map Prod.snd)) no) where
  expression := spellsExpression_conditional
    (spellsOperand_attributeCall value part hfirst hrest trailing) hcondition hno
  not_assigned i hshows _ :=
    misses_assignedTarget_attributeCall value part hfirst hrest hshows.left
      (hshows.append.meets (by decide))

end

/-- An assignment. -/
def assignTree (target value : Expr) : Stmt := .mk default (.assign [target] value)

/-- The words of an assignment. -/
def assignWords (target value : List Word) : List Word :=
  target ++ (Token.Kind.mark .assign).word :: value

omit hc in
lemma reads_assignment {left right : List Word} {target value : Expr}
    (htarget : SpellsTarget sub c left target) (hvalue : SpellsValue sub c right value)
    (hshows : c.Shows i (assignWords left right))
    (hstop : c.Meets [.newline] (i + (assignWords left right).length)) :
    (assignment sub).Reads c i (.assign [target] value) (i + (assignWords left right).length) := by
  have hbehind := hshows.append
  have hassign : c.Meets [.mark .assign] (i + left.length) :=
    hbehind.meets (List.mem_singleton_self _)
  have hlength : i + (assignWords left right).length = i + left.length + 1 + right.length := by
    simp only [assignWords, List.length_append, List.length_cons]
    omega
  rw [hlength] at hstop ⊢
  have hi : i < c.source.tokens.size := by
    have := hassign.lt_size
    omega
  have assigned : (assignedTarget sub).Reads c i target (i + left.length + 1) :=
    (reads_tupled hi (htarget.target i hshows.left hassign) hassign rfl).bind fun found hfound =>
      (reads_discard_take hbehind.wordAt rfl).bind fun _ _ => .pure hfound
  have targets : (many1 (assignedTarget sub)).Reads c i [target] (i + left.length + 1) := by
    have hj : i + left.length + 1 ≤ c.source.tokens.size := hassign.lt_size
    have no_other := hvalue.not_assigned _ hbehind.tail hstop
    exact (Repeats.go assigned (by omega) (.stop no_other)).many1 hj
  have hvalueStart : c.Meets Token.Kind.operands (i + left.length + 1) :=
    (hvalue.expression.plainly _ hbehind.tail (hstop.mono (by decide))).meets
  have reads : (yieldOrExpressions sub).Reads c (i + left.length + 1) value
      (i + left.length + 1 + right.length) :=
    (hvalueStart.misses rfl).orElse_reads (hvalue.expression.starExpressions _ hbehind.tail hstop)
  have no_other : (mark .assign).Misses c (i + left.length + 1 + right.length) := hstop.misses rfl
  obtain ⟨hplain, hannotated⟩ := htarget.not_annotated i hshows.left hassign
  refine reads_settle (hplain.bind.orElse_reads (hannotated.bind.bind.orElse_reads (Reads.orElse
    (reads_unsettled (targets.bind fun targets htargets => reads.bind fun value hvalue => ?_)))))
  refine no_other.notAhead.bind fun _ _ => .pure ?_
  change StmtForm.assign (seenIn .bare targets) (value.seen .bare) = _
  rw [seenIn_eq_map]
  exact congrArg₂ StmtForm.assign htargets hvalue

/-- Words that spell a statement on a line of its own. -/
structure SpellsStatement (sub : Grammar) (c : Context) (words : List Word) (s : Stmt) : Prop where
  simple : Spells (simpleStatement sub) c [.newline] words s
  not_compound : ∀ i, c.Shows i words → c.Meets [.newline] (i + words.length) →
    (compoundStatement sub).Misses c i

omit hc in
lemma spellsStatement_assign {left right : List Word} {target value : Expr}
    (htarget : SpellsTarget sub c left target) (hvalue : SpellsValue sub c right value) :
    SpellsStatement sub c (assignWords left right) (assignTree target value) where
  simple i hshows hstop := by
    have hi : i < c.source.tokens.size := by
      have := hstop.lt_size
      omega
    exact (reads_assignment htarget hvalue hshows hstop).orElse.statement hi
  not_compound i hshows hstop :=
    htarget.not_compound i hshows.left (hshows.append.meets (List.mem_singleton_self _))

section
variable {first : List Word × Expr} {rest : List (List Word × Expr)} {trailing : Bool}

omit hs in
lemma SpellsExpression.reads_subject {words : List Word} (h : SpellsExpression sub c words e)
    (hshows : c.Shows i words) (hstop : c.Meets [.newline] (i + words.length)) :
    (subject sub).Reads c i e (i + words.length) := by
  have hstops : c.Meets Token.Kind.stops _ := hstop.mono (by decide)
  have hi := (h.plainly i hshows hstops).meets.lt_size
  refine (Misses.expression ?_ hi).orElse_reads (h.namedExpression i hshows hstops)
  exact (h.starNamedExpression i hshows hstops).bind_misses fun _ _ =>
    (hstop.misses rfl).discard.bind

/-- An expression that is a statement. -/
def expressionTree (value : Expr) : Stmt := .mk default (.expression value)

lemma spellsStatement_call (function : List Char) (hfirst : SpellsExpression sub c first.1 first.2)
    (hrest : ∀ item ∈ rest, SpellsExpression sub c item.1 item.2) (trailing : Bool) :
    SpellsStatement sub c (nameWord function :: bracketed first.1 (rest.map Prod.fst) trailing)
      (expressionTree (callTree (nameTree function) (first.2 :: rest.map Prod.snd))) where
  simple i hshows hstop := by
    have hi := Context.lt_size_of_wordAt hshows.wordAt
    have hname : c.Meets [.name] i := hshows.meets (List.mem_singleton_self _)
    have hopen : c.Meets [.mark .openParen] (i + 1) :=
      hshows.tail.meets (List.mem_singleton_self _)
    obtain ⟨hassigned, hpart⟩ :=
      misses_assignedTarget_call function hfirst hrest hshows (hstop.mono (by decide))
    have single : (sub .singleTarget).Reads c i (nameTree function) (i + 1) :=
      hs.reads rfl (Nat.le_of_lt hi)
        (hpart.orElse_reads (reads_nameExpression hshows.wordAt).orElse)
    have no_assignment : (assignment sub).Misses c i := by
      refine Misses.bind (Misses.orElse ?_ (Misses.orElse ?_ (Misses.orElse ?_ (Misses.orElse ?_
        (misses_faults hc.plain)))))
      · exact ((reads_nameExpression hshows.wordAt).bind_misses fun _ _ =>
          (hopen.misses rfl).discard.bind).bind
      · exact ((hname.misses rfl).discard.bind.orElse hpart).bind.bind
      · exact hassigned.bind.bind.bind
      · exact Misses.bind (single.bind_misses fun _ _ => Misses.bind (hopen.misses rfl))
    refine (no_assignment.orElse_reads (Reads.orElse ?_)).statement hi
    have call := (spellsOperand_call function hfirst hrest trailing).expression
    exact (call.starExpressions i hshows hstop).bind fun _ hfound =>
      .pure (congrArg StmtForm.expression hfound)
  not_compound i hshows hstop := by
    have hname : c.Meets [.name] i := hshows.meets (List.mem_singleton_self _)
    rw [List.length_cons, Nat.add_comm _ 1, ← Nat.add_assoc] at hstop
    have subject :=
      (spellsOperand_bracketed hfirst hrest trailing).expression.reads_subject hshows.tail hstop
    exact misses_compoundStatement hname (by decide)
      (misses_matchStatement hshows.wordAt (.inr ⟨_, _, subject, hstop⟩))

end

/-! ### Returns -/

instance starts_starExpression : Starts c (sub .starExpression)
    fun kind => kind == .mark .star || kind.opens := by
  refine starts_of_rule rfl ?_
  change Starts c (starExpressionRule sub) _
  unfold starExpressionRule
  infer_instance

instance starts_starExpressions : Starts c (starExpressions sub)
    fun kind => kind == .mark .star || kind.opens := by
  unfold starExpressions
  infer_instance

instance starts_assignment : Starts c (assignment sub)
    fun kind => kind == .mark .star || kind.opens := by
  unfold assignment
  refine Starts.weaken inferInstance fun kind h => ?_
  simp_all [Token.Kind.opens, Token.Kind.openers]

/-- A return of a value. -/
def returnTree (value : Expr) : Stmt := .mk default (.returning (some value))

lemma spellsStatement_return {words : List Word}
    (h : Spells (starExpressions sub) c [.newline] words e) :
    SpellsStatement sub c ((Token.Kind.keyword .return_).word :: words) (returnTree e) where
  simple i hshows hstop := by
    have hi : c.Meets [.keyword .return_] i := hshows.meets (List.mem_singleton_self _)
    rw [List.length_cons, Nat.add_comm _ 1, ← Nat.add_assoc] at hstop ⊢
    refine Reads.statement ((hi.misses rfl).orElse_reads (Misses.orElse_reads (hi.misses rfl).bind
      (Reads.orElse ?_))) hi.lt_size
    refine (reads_discard_take hshows.wordAt rfl).bind fun _ _ => ?_
    refine (h _ hshows.tail hstop).optional.bind fun found hfound => .pure ?_
    change StmtForm.returning (seenInSome .bare found) = _
    rw [seenInSome_eq_map]
    exact congrArg StmtForm.returning hfound
  not_compound i hshows hstop := by
    have hi : c.Meets [.keyword .return_] i := hshows.meets (List.mem_singleton_self _)
    exact misses_compoundStatement hi (by decide) (hi.misses rfl)

omit hc in
/-- Two values with a comma between them. -/
lemma spells_pair {left right : List Word} {first second : Expr}
    (hleft : SpellsExpression sub c left first) (hright : SpellsExpression sub c right second) :
    Spells (starExpressions sub) c [.newline] (left ++ (Token.Kind.mark .comma).word :: right)
      (tupleTree [first, second]) := by
  intro i hshows hstop
  have hbehind := hshows.append
  have hcomma : c.Meets Token.Kind.stops (i + left.length) := hbehind.meets (by decide)
  have hlength : i + (left ++ (Token.Kind.mark .comma).word :: right).length =
      i + left.length + 1 + right.length := by
    simp only [List.length_append, List.length_cons]
    omega
  rw [hlength] at hstop ⊢
  have hend : (mark .comma).Misses c (i + left.length + 1 + right.length) := hstop.misses rfl
  have value := hright.starExpression _ hbehind.tail (hstop.mono (by decide))
  have more : (many (do discard (mark .comma); sub .starExpression)).Reads c (i + left.length)
      [second] (i + left.length + 1 + right.length) :=
    (Repeats.go ((reads_discard_take hbehind.wordAt rfl).bind fun _ _ => value) (by omega)
      (.stop hend.discard.bind)).many (Nat.le_of_lt hstop.lt_size)
  refine (reads_here (hleft.plainly i hshows.left hcomma).meets.lt_size).bind fun start _ => ?_
  refine (hleft.starExpression i hshows.left hcomma).bind fun found hfound => ?_
  refine more.bind fun others hothers => hend.optional.bind fun trailing _ => ?_
  obtain ⟨other, rfl, hother⟩ := List.map_eq_singleton_iff.mp hothers
  rw [if_neg (by simp)]
  refine reads_spanFrom.bind fun span hspan => .pure ?_
  change Expr.mk (Placed.bare span) (.tuple (seenIn .bare [found, other])) = _
  rw [hspan, seenIn_eq_map]
  have hitems := congrArg₂ (fun a b => [a, b]) hfound hother
  exact congrArg (fun items => Expr.mk default (.tuple items)) hitems

end AdjointSynthesis.Code.Grammar

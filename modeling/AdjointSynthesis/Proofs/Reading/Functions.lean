import AdjointSynthesis.Proofs.Reading.Statements

/-!
# Reading functions and programs

* `SpellsItem`: words that are read as one statement in a row, with their line end or block.
* `spellsItem_function`, `spellsItem_decorated`: functions whose statements are known.
* `exists_read_of_shows`: a text that shows the words of statements is read as these statements.
-/

namespace AdjointSynthesis.Code.Grammar

open Reader

variable {c : Context} {sub : Grammar} [hs : sub.Settled c] [hc : c.IsPlain] {i j k : Nat}
  {e : Expr}

/-! ## Parameters -/

/-- Parameters from a star on are not looked into: they only count as missing here. -/
instance placedStarParameters : Placed StarParameters := ⟨id⟩

/-- A parameter without an annotation. -/
def parameterTree (written : List Char) : Parameter := .mk default (identifierOf written) none

/-- Parameters without defaults. -/
def parametersTree (names : List (List Char)) : Parameters :=
  .mk [] (names.map parameterTree) none [] [] none []

instance starts_parameter {style : ParameterStyle} :
    Starts c (parameter sub style) (· == .name) := by
  unfold parameter
  infer_instance

instance starts_plainParameter {style : ParameterStyle} :
    Starts c (plainParameter sub style) (· == .name) := by
  unfold plainParameter
  infer_instance

instance starts_defaultParameter {style : ParameterStyle} :
    Starts c (defaultParameter sub style) (· == .name) := by
  unfold defaultParameter
  infer_instance

instance starts_slashEnd {style : ParameterStyle} :
    Starts c (slashEnd style) (· == .mark .slash) := by
  unfold slashEnd
  infer_instance

instance starts_spreadParameter {style : ParameterStyle} :
    Starts c (spreadParameter sub style) (· == .mark .doubleStar) := by
  unfold spreadParameter
  refine Starts.weaken inferInstance fun kind h => ?_
  simp_all

omit hs in
lemma misses_starParameters (h : c.Meets [.mark .closeParen] i) :
    (starParameters sub .function).Misses c i := by
  unfold starParameters
  refine (misses_faults hc.plain).orElse (Misses.orElse ?_ (Misses.orElse ?_ (Misses.orElse ?_ ?_)))
  · exact (h.misses rfl).discard.bind
  · exact (h.misses rfl).discard.bind
  · exact (h.misses rfl).discard.bind
  · exact (h.misses rfl).bind

omit hs hc in
/-- A parameter that a comma or the bracket follows. -/
lemma reads_parameter {written : List Char} (h : c.wordAt i = some (nameWord written))
    (hj : c.Meets Token.Kind.itemStops (i + 1)) :
    (parameter sub .function).Reads c i (parameterTree written) (i + 1) := by
  have hint : (Reader.optional do discard (mark .colon); sub .expression).Reads c (i + 1) none
      (i + 1) := Misses.optional (hj.misses rfl).discard.bind
  have inner : (do
      let name ← identifier
      let hint ← Reader.optional do discard (mark .colon); sub .expression
      return (name, hint)).Reads c i (identifierOf written, none) (i + 1) :=
    (reads_identifier h).bind fun _ hname => hint.bind fun _ hhint => .pure (Prod.ext hname hhint)
  refine (inner.spanned (Context.lt_size_of_wordAt h)).bind ?_
  rintro ⟨span, name, found⟩ heq
  obtain ⟨hspan, heq⟩ := Prod.ext_iff.mp heq
  obtain ⟨hname, hfound⟩ := Prod.ext_iff.mp heq
  obtain rfl : found = none := Option.map_eq_none_iff.mp hfound
  exact .pure (congrArg₂ (Parameter.mk · · none) hspan hname)

/-- The words of names with commas between them. -/
def namesWords (first : List Char) (rest : List (List Char)) : List Word :=
  listed (nameItem first).1 ((rest.map nameItem).map Prod.fst)

omit hs hc in
/-- The parameters up to the bracket behind them. -/
lemma repeats_parameters {first : List Char} {rest : List (List Char)}
    (hshows : c.Shows i (namesWords first rest ++ [(Token.Kind.mark .closeParen).word])) :
    Repeats (plainParameter sub .function) c i ((first :: rest).map parameterTree)
      (i + (namesWords first rest).length) := by
  induction rest generalizing first i with
  | nil =>
    have hclose : c.Meets [.mark .closeParen] (i + 1) :=
      hshows.tail.meets (List.mem_singleton_self _)
    obtain ⟨token, htoken, hword⟩ := exists_token hshows.tail.wordAt
    have hend : (parameterEnd .function).Reads c (i + 1) () (i + 1) :=
      (hclose.misses rfl).discard.orElse_reads
        (reads_take htoken (congrArg Word.kind hword)).ahead
    refine .go ?_ (Nat.lt_succ_self i) (.stop (hclose.misses rfl))
    exact (reads_parameter hshows.wordAt (hclose.mono (by decide))).bind fun _ hfound =>
      hend.bind fun _ _ => .pure hfound
  | cons second rest ih =>
    have hcomma : c.Meets [.mark .comma] (i + 1) := hshows.tail.meets (List.mem_singleton_self _)
    have hend : (parameterEnd .function).Reads c (i + 1) () (i + 2) :=
      (reads_discard_take hshows.tail.wordAt rfl).orElse
    have hlength : i + (namesWords first (second :: rest)).length =
        i + 2 + (namesWords second rest).length := by
      simp only [namesWords, listed, nameItem, behindCommas, List.map_cons, List.flatMap_cons,
        List.length_append, List.length_cons, List.length_nil]
      omega
    rw [hlength]
    refine .go ?_ (by omega) (ih hshows.tail.tail)
    exact (reads_parameter hshows.wordAt (hcomma.mono (by decide))).bind fun _ hfound =>
      hend.bind fun _ _ => .pure hfound

omit hs in
lemma reads_parameters {first : List Char} {rest : List (List Char)}
    (hshows : c.Shows i (namesWords first rest ++ [(Token.Kind.mark .closeParen).word])) :
    (parameters sub .function).Reads c i (parametersTree (first :: rest))
      (i + (namesWords first rest).length) := by
  have hclose : c.Meets [.mark .closeParen] (i + (namesWords first rest).length) :=
    hshows.append.meets (List.mem_singleton_self _)
  have hend := Nat.le_of_lt hclose.lt_size
  have row : Repeats (plainParameter sub .function) c i ((first :: rest).map parameterTree)
      (i + (namesWords first rest).length) := repeats_parameters hshows
  have no_default :
      (defaultParameter sub .function).Misses c (i + (namesWords first rest).length) :=
    hclose.misses rfl
  refine (misses_faults hc.plain).orElse_reads (Misses.orElse_reads ?_ (Misses.orElse_reads ?_
    (Reads.orElse ?_)))
  · refine Misses.bind ((row.many1 hend).bind_misses fun _ _ => ?_)
    exact (hclose.misses rfl).discard.bind
  · refine Misses.bind ((row.many hend).bind_misses fun _ _ => ?_)
    exact no_default.bind.bind
  · refine (row.many1 hend).bind fun plain hplain => ?_
    refine ((Repeats.stop no_default).many hend).bind fun defaults hdefaults => ?_
    refine (misses_starParameters hclose).optional.bind fun star hstar => .pure ?_
    obtain rfl : defaults = [] := List.map_eq_nil_iff.mp hdefaults
    obtain rfl : star = none := Option.map_eq_none_iff.mp hstar
    change Parameters.mk [] (seenInParameters .bare (plain ++ [])) none [] [] none [] = _
    rw [List.append_nil, seenInParameters_eq_map]
    exact congrArg (Parameters.mk [] · none [] [] none []) hplain

/-! ## Blocks -/

/-- What a line or a statement with a block adds to the statements in a row. -/
def item (sub : Grammar) : Reader (List Stmt) :=
  (do return [← compoundStatement sub]) <|> simpleStatements sub

/-- Words that spell a statement with its line end or block. -/
structure SpellsItem (sub : Grammar) (c : Context) (words : List Word) (s : Stmt) : Prop where
  ne_nil : words ≠ []
  reads : ∀ i, c.Shows i words → (item sub).Reads c i [s] (i + words.length)

omit hs hc in
lemma SpellsStatement.item {words : List Word} {s : Stmt} (h : SpellsStatement sub c words s) :
    SpellsItem sub c (words ++ [Token.Kind.newline.word]) s where
  ne_nil := List.append_ne_nil_of_right_ne_nil _ (List.cons_ne_nil _ _)
  reads i hshows := by
    have hend := hshows.append
    have hnewline : c.Meets [.newline] (i + words.length) :=
      hend.meets (List.mem_singleton_self _)
    have single : (separated (mark .semicolon) (simpleStatement sub)).Reads c i [s]
        (i + words.length) :=
      (h.simple i hshows.left hnewline).bind fun _ hfound =>
        ((Repeats.stop (hnewline.misses rfl).discard.bind).many (Nat.le_of_lt hnewline.lt_size)).bind
          fun _ hmore => .pure (congrArg₂ List.cons hfound hmore)
    have no_other : (mark .semicolon).Misses c (i + words.length) := hnewline.misses rfl
    rw [List.length_append, ← Nat.add_assoc]
    refine (h.not_compound i hshows.left hnewline).bind.orElse_reads ?_
    exact single.bind fun _ hfound => no_other.optional.discard.bind fun _ _ =>
      (reads_discard_take hend.wordAt rfl).bind fun _ _ => .pure hfound

instance starts_importFromStatement : Starts c importFromStatement (· == .keyword .from_) := by
  unfold importFromStatement
  exact Starts.weaken inferInstance fun kind h => by simp_all

instance starts_deletion : Starts c (deletion sub) (· == .keyword .del_) := by
  unfold deletion
  exact Starts.weaken inferInstance fun kind h => by simp_all

lemma misses_item (h : c.Meets Token.Kind.closers i) : (item sub).Misses c i := by
  have compound : (compoundStatement sub).Misses c i :=
    misses_compoundStatement h (by decide) (h.misses rfl)
  have simple : (simpleStatement sub).Misses c i := by
    unfold simpleStatement returnStatement importStatement raiseStatement wordStatement
      assertStatement declaredNames
    exact h.misses (by decide)
  exact compound.bind.orElse simple.bind.bind

/-- The words of statements in a row. -/
def itemsWords (items : List (List Word × Stmt)) : List Word := items.flatMap Prod.fst

omit hs hc in
lemma repeats_items {items : List (List Word × Stmt)}
    (hitems : ∀ item ∈ items, SpellsItem sub c item.1 item.2)
    (hshows : c.Shows i (itemsWords items))
    (hend : (item sub).Misses c (i + (itemsWords items).length)) :
    Repeats (item sub) c i (items.map fun item => [item.2]) (i + (itemsWords items).length) := by
  induction items generalizing i with
  | nil => exact .stop hend
  | cons first rest ih =>
    have hfirst := hitems first List.mem_cons_self
    have hlength : i + (itemsWords (first :: rest)).length =
        i + first.1.length + (itemsWords rest).length := by
      rw [itemsWords, List.flatMap_cons, List.length_append, ← Nat.add_assoc]
      rfl
    rw [hlength] at hend ⊢
    have hpos := List.length_pos_of_ne_nil hfirst.ne_nil
    exact .go (hfirst.reads i hshows.left) (by omega)
      (ih (fun item hitem => hitems item (List.mem_cons_of_mem _ hitem)) hshows.append hend)

omit hs hc in
/-- Statements in a row, from what each line or statement with a block adds. -/
lemma reads_statements_of_rows {rows : List (List Stmt)} (hne : rows ≠ [])
    (h : Repeats (item sub) c i rows j) (hj : j ≤ c.source.tokens.size) :
    (statements sub).Reads c i rows.flatten j := by
  obtain ⟨first, rest, rfl⟩ := List.exists_cons_of_ne_nil hne
  refine (h.many1 hj).bind fun found hfound => .pure ?_
  change found.flatten.map Placed.bare = _
  rw [List.map_flatten]
  exact congrArg List.flatten hfound

lemma reads_statements {items : List (List Word × Stmt)} (hne : items ≠ [])
    (hitems : ∀ item ∈ items, SpellsItem sub c item.1 item.2)
    (hshows : c.Shows i (itemsWords items))
    (hend : c.Meets Token.Kind.closers (i + (itemsWords items).length)) :
    (statements sub).Reads c i (items.map Prod.snd) (i + (itemsWords items).length) := by
  have rows := repeats_items hitems hshows (misses_item hend)
  have found := reads_statements_of_rows (fun hnil => hne (List.map_eq_nil_iff.mp hnil)) rows
    (Nat.le_of_lt hend.lt_size)
  rwa [← List.flatMap_def, ← List.map_eq_flatMap] at found

/-- The words of a block on lines further in. -/
def blockWords (items : List (List Word × Stmt)) : List Word :=
  Token.Kind.newline.word :: Token.Kind.indent.word ::
    (itemsWords items ++ [Token.Kind.dedent.word])

omit hc in
/-- Statements on lines further in. -/
lemma reads_block_of_statements {body : List Stmt}
    (hshows : c.Shows i [Token.Kind.newline.word, Token.Kind.indent.word])
    (found : (statements sub).Reads c (i + 2) body j)
    (hend : c.wordAt j = some Token.Kind.dedent.word) : (sub .block).Reads c i body (j + 1) := by
  refine hs.reads rfl (Nat.le_of_lt (Context.lt_size_of_wordAt hshows.wordAt)) (Reads.orElse ?_)
  exact (reads_discard_take hshows.wordAt rfl).bind fun _ _ =>
    (reads_discard_take hshows.tail.wordAt rfl).bind fun _ _ => found.bind fun _ hfound =>
      (reads_discard_take hend rfl).bind fun _ _ => .pure hfound

lemma reads_block {items : List (List Word × Stmt)} (hne : items ≠ [])
    (hitems : ∀ item ∈ items, SpellsItem sub c item.1 item.2)
    (hshows : c.Shows i (blockWords items)) :
    (sub .block).Reads c i (items.map Prod.snd) (i + (blockWords items).length) := by
  have hend := hshows.tail.tail.append
  have found := reads_statements hne hitems hshows.tail.tail.left (hend.meets (by decide))
  have hlength : i + (blockWords items).length = i + 2 + (itemsWords items).length + 1 := by
    simp only [blockWords, List.length_cons, List.length_append, List.length_nil]
    omega
  have hopen : c.Shows i [Token.Kind.newline.word, Token.Kind.indent.word] :=
    (List.prefix_append [_, _] _).trans hshows
  rw [hlength]
  exact reads_block_of_statements hopen found hend.wordAt

/-! ## Functions -/

/-- A function without annotations. -/
def functionTree (name : List Char) (parameters : List (List Char)) (body : List Stmt)
    (decoration : List Expr) : Stmt :=
  .mk default (.function false (identifierOf name) (parametersTree parameters) body decoration none)

/-- The words of a function without annotations. -/
def functionWords (name first : List Char) (rest : List (List Char))
    (items : List (List Word × Stmt)) : List Word :=
  (Token.Kind.keyword .def_).word :: nameWord name :: (Token.Kind.mark .openParen).word ::
    (namesWords first rest ++ ((Token.Kind.mark .closeParen).word ::
      (Token.Kind.mark .colon).word :: blockWords items))

omit hs hc in
lemma reads_required {sign : Mark} {shown : String}
    (h : c.wordAt i = some (Token.Kind.mark sign).word) :
    (discard (required sign shown)).Reads c i () (i + 1) := by
  obtain ⟨token, htoken, hword⟩ := exists_token h
  have found : (required sign shown).Reads c i token (i + 1) := by
    refine (reads_peek htoken).bind fun found hfound => ?_
    obtain rfl : found = token := hfound
    have hkind : found.kind = .mark sign := congrArg Word.kind hword
    rw [if_pos hkind]
    exact fun _ => ⟨found, rfl, rfl⟩
  exact found.discard

/-- The words of the head of a function. -/
def headWords (name first : List Char) (rest : List (List Char)) : List Word :=
  (Token.Kind.keyword .def_).word :: nameWord name :: (Token.Kind.mark .openParen).word ::
    (namesWords first rest ++
      [(Token.Kind.mark .closeParen).word, (Token.Kind.mark .colon).word])

section
variable {name first : List Char} {rest : List (List Char)} {items : List (List Word × Stmt)}
  {decoration : List Expr}

lemma functionWords_eq :
    functionWords name first rest items = headWords name first rest ++ blockWords items := by
  simp [functionWords, headWords]

omit hs in
/-- A function, from the block behind its head. -/
lemma reads_functionForm_of_block {body : List Stmt} (hshows : c.Shows i (headWords name first rest))
    (hblock : (sub .block).Reads c (i + (headWords name first rest).length) body j) :
    (functionForm sub false decoration).Reads c i
      (.function false (identifierOf name) (parametersTree (first :: rest)) body
        (decoration.map Placed.bare) none) j := by
  have hinside := hshows.tail.tail.tail
  have hclose := hinside.append
  have hparameters : c.Shows (i + 1 + 1 + 1)
      (namesWords first rest ++ [(Token.Kind.mark .closeParen).word]) := by
    rw [List.append_cons] at hinside
    exact hinside.left
  have hcolon : c.Meets [.mark .colon] _ := hclose.tail.meets (List.mem_singleton_self _)
  have hint : (returnHint sub).Reads c _ none _ := Misses.optional (hcolon.misses rfl).discard.bind
  have hlength : i + (headWords name first rest).length =
      i + 1 + 1 + 1 + (namesWords first rest).length + 1 + 1 := by
    simp only [headWords, List.length_cons, List.length_append, List.length_nil]
    omega
  rw [hlength] at hblock
  refine (reads_discard_take hshows.wordAt rfl).bind fun _ _ => ?_
  refine (reads_identifier hshows.tail.wordAt).bind fun found hname => ?_
  refine (reads_required hshows.tail.tail.wordAt).bind fun _ _ => ?_
  refine (reads_parameters hparameters).optional.bind fun parameters hfound => ?_
  refine (reads_discard_take hclose.wordAt rfl).bind fun _ _ => hint.bind fun annotation hnone => ?_
  refine (reads_required hclose.tail.wordAt).bind fun _ _ => ?_
  refine hblock.bind fun body hbody => .pure ?_
  obtain ⟨parameters, rfl, hparameters⟩ := Option.map_eq_some_iff.mp hfound
  obtain rfl : annotation = none := Option.map_eq_none_iff.mp hnone
  obtain rfl : found = identifierOf name := hname
  change StmtForm.function false _ (parameters.seen .bare) (seenInBody .bare body)
    (seenIn .bare decoration) none = _
  rw [seenInBody_eq_map, seenIn_eq_map]
  exact congrArg₂ (StmtForm.function false _ · · _ none) hparameters hbody

lemma reads_functionForm (hne : items ≠ [])
    (hitems : ∀ item ∈ items, SpellsItem sub c item.1 item.2)
    (hshows : c.Shows i (functionWords name first rest items)) :
    (functionForm sub false decoration).Reads c i
      (.function false (identifierOf name) (parametersTree (first :: rest)) (items.map Prod.snd)
        (decoration.map Placed.bare) none)
      (i + (functionWords name first rest items).length) := by
  rw [functionWords_eq] at hshows ⊢
  rw [List.length_append, ← Nat.add_assoc]
  exact reads_functionForm_of_block hshows.left (reads_block hne hitems hshows.append)

omit hs in
/-- A function as a statement. -/
lemma reads_undecorated_of_form {form : StmtForm} (hdef : c.Meets [.keyword .def_] i)
    (h : (functionForm sub false decoration).Reads c i form j) :
    (undecoratedFunction sub decoration).Reads c i (.mk default form) j :=
  (misses_faults hc.plain).orElse_reads (h.orElse.statement hdef.lt_size)

lemma reads_undecorated (hne : items ≠ [])
    (hitems : ∀ item ∈ items, SpellsItem sub c item.1 item.2)
    (hshows : c.Shows i (functionWords name first rest items)) :
    (undecoratedFunction sub decoration).Reads c i
      (functionTree name (first :: rest) (items.map Prod.snd) (decoration.map Placed.bare))
      (i + (functionWords name first rest items).length) :=
  reads_undecorated_of_form (hshows.meets (List.mem_singleton_self _))
    (reads_functionForm hne hitems hshows)

omit hs hc in
lemma reads_behindWord {α : Type} [Placed α] {word : Word} {words : List Token.Kind} {r : Reader α}
    {v : α} (h : c.wordAt i = some word) (hkind : words.contains word.kind = true)
    (hr : r.Reads c i v j) : (behindWord words r).Reads c i v j := by
  obtain ⟨token, htoken, rfl⟩ := exists_token h
  refine (reads_peek htoken).bind fun found hfound => ?_
  obtain rfl : found = token := hfound
  have hkind : words.contains found.kind = true := hkind
  rw [if_pos hkind]
  exact hr

instance starts_decorators : Starts c (decorators sub) (· == .mark .at_) := by
  unfold decorators
  infer_instance

omit hs in
/-- A function as one of several statements. -/
lemma reads_item_of_form {form : StmtForm} (hdef : c.wordAt i = some (Token.Kind.keyword .def_).word)
    (h : (functionForm sub false []).Reads c i form j) :
    (item sub).Reads c i [.mk default form] j := by
  have hmeets : c.Meets [.keyword .def_] i := ⟨_, hdef, List.mem_singleton_self _⟩
  have undecorated : (undecoratedFunction sub []).Reads c i (.mk default form) j :=
    reads_undecorated_of_form hmeets h
  have function : (functionDefinition sub).Reads c i (.mk default form) j :=
    (hmeets.misses rfl).bind.orElse_reads undecorated
  exact Reads.orElse (Reads.bind (reads_behindWord hdef rfl function).orElse
    fun _ hfound => .pure (congrArg (· :: []) hfound))

/-- The words of a function are read as one statement. -/
lemma spellsItem_function (name first : List Char) (rest : List (List Char)) (hne : items ≠ [])
    (hitems : ∀ item ∈ items, SpellsItem sub c item.1 item.2) :
    SpellsItem sub c (functionWords name first rest items)
      (functionTree name (first :: rest) (items.map Prod.snd) []) where
  ne_nil := List.cons_ne_nil _ _
  reads _ hshows := reads_item_of_form hshows.wordAt (reads_functionForm hne hitems hshows)

/-- The words of a function without annotations that has one decorator. -/
def decoratedWords (decorator name first : List Char) (rest : List (List Char))
    (items : List (List Word × Stmt)) : List Word :=
  (Token.Kind.mark .at_).word :: nameWord decorator :: Token.Kind.newline.word ::
    functionWords name first rest items

/-- A function with a decorator as one of several statements. -/
lemma spellsItem_decorated (decorator name first : List Char) (rest : List (List Char))
    (hne : items ≠ []) (hitems : ∀ item ∈ items, SpellsItem sub c item.1 item.2) :
    SpellsItem sub c (decoratedWords decorator name first rest items)
      (functionTree name (first :: rest) (items.map Prod.snd) [nameTree decorator]) where
  ne_nil := List.cons_ne_nil _ _
  reads i hshows := by
    have hnewline : c.Meets Token.Kind.stops (i + 1 + 1) := hshows.tail.tail.meets (by decide)
    have hdef : c.Meets [.keyword .def_] (i + 1 + 1 + 1) :=
      hshows.tail.tail.tail.meets (List.mem_singleton_self _)
    have value : SpellsExpression sub c [nameWord decorator] (nameTree decorator) :=
      (spellsOperand_name decorator).expression
    have line : (do
        discard (mark .at_)
        let found ← namedExpression sub
        discard lineEnd
        return found).Reads c i (nameTree decorator) (i + 1 + 1 + 1) :=
      (reads_discard_take hshows.wordAt rfl).bind fun _ _ =>
        (value.namedExpression _ (Context.Shows.left hshows.tail) hnewline).bind fun _ hfound =>
          (reads_discard_take hshows.tail.tail.wordAt rfl).bind fun _ _ => .pure hfound
    have decoration : (decorators sub).Reads c i [nameTree decorator] (i + 1 + 1 + 1) :=
      (Repeats.go line (by omega) (.stop (hdef.misses rfl))).many1 (Nat.le_of_lt hdef.lt_size)
    have hlength : i + (decoratedWords decorator name first rest items).length =
        i + 1 + 1 + 1 + (functionWords name first rest items).length := by
      simp only [decoratedWords, List.length_cons]
      omega
    rw [hlength]
    have function : (functionDefinition sub).Reads c i
        (functionTree name (first :: rest) (items.map Prod.snd) [nameTree decorator])
        (i + 1 + 1 + 1 + (functionWords name first rest items).length) := by
      refine Reads.orElse (decoration.bind fun found hfound => ?_)
      have hfound : found.map Placed.bare = [nameTree decorator] := hfound
      rw [← hfound]
      exact reads_undecorated hne hitems hshows.tail.tail.tail
    exact Reads.orElse (Reads.bind (reads_behindWord hshows.wordAt rfl function).orElse
      fun _ hfound => .pure (congrArg (· :: []) hfound))

end

/-! ## Programs -/

omit hs hc in
/-- A program, from what each line or statement with a block adds. -/
lemma reads_program_of_rows {rows : List (List Stmt)} (hne : rows ≠ [])
    (h : Repeats (item sub) c i rows j) (hend : c.wordAt j = some Token.Kind.finish.word) :
    (program sub).Reads c i rows.flatten (j + 1) := by
  have found := reads_statements_of_rows hne h (Nat.le_of_lt (Context.lt_size_of_wordAt hend))
  refine found.optional.bind fun found hfound => (reads_discard_take hend rfl).bind
    fun _ _ => .pure ?_
  obtain ⟨statements, rfl, hstatements⟩ := Option.map_eq_some_iff.mp hfound
  exact hstatements

/-- A program of some statements. -/
lemma reads_program {items : List (List Word × Stmt)} (hne : items ≠ [])
    (hitems : ∀ item ∈ items, SpellsItem sub c item.1 item.2)
    (hshows : c.Shows i (itemsWords items ++ [Token.Kind.finish.word])) :
    (program sub).Reads c i (items.map Prod.snd) (i + (itemsWords items).length + 1) := by
  have hend := hshows.append
  have rows := repeats_items hitems hshows.left (misses_item (hend.meets (by decide)))
  have found := reads_program_of_rows (fun hnil => hne (List.map_eq_nil_iff.mp hnil)) rows
    hend.wordAt
  rwa [← List.flatMap_def, ← List.map_eq_flatMap] at found

/-- A text is read as what the grammar without memory finds in its tokens. -/
lemma exists_read_of_reads {text : List Char} {steps : Nat} (hsteps : stepsFor text ≤ steps)
    {body : List Stmt} (h : (program (Grammar.forgetful steps)).Reads
      ⟨.ofText text, false, false⟩ 0 body j) :
    ∃ statements, read text = .ok statements ∧ statements.map (Stmt.seen .bare) = body := by
  obtain ⟨statements, hfound, hstatements⟩ :=
    h (noProgress 0 (TokenSequence.ofText text).tokens.size)
  exact ⟨statements, (read_eq_ok_iff hsteps statements).mpr (readAll_eq_ok_iff.mpr ⟨_, hfound⟩),
    hstatements⟩

/-- **A text is read as what its words spell.** -/
theorem exists_read_of_shows {text : List Char} {items : List (List Word × Stmt)} (hne : items ≠ [])
    (hitems : ∀ (sub : Grammar) (c : Context) [sub.Settled c] [c.IsPlain],
      ∀ item ∈ items, SpellsItem sub c item.1 item.2)
    (hshows : Context.Shows ⟨.ofText text, false, false⟩ 0
      (itemsWords items ++ [Token.Kind.finish.word])) :
    ∃ statements, read text = .ok statements ∧
      statements.map (Stmt.seen .bare) = items.map Prod.snd := by
  let c : Context := ⟨.ofText text, false, false⟩
  let steps := stepsFor text + (16 * weightFrom c.source.tokens 0 + 9)
  have plain : c.IsPlain := ⟨rfl⟩
  have settled : (Grammar.forgetful steps).Settled c := settled_forgetful (Nat.le_add_left _ _)
  exact exists_read_of_reads (Nat.le_add_right _ _)
    (reads_program hne (hitems (Grammar.forgetful steps) c) hshows)

end AdjointSynthesis.Code.Grammar

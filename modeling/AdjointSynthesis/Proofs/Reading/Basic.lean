import AdjointSynthesis.Proofs.Forgetful

/-!
# What a reader finds

A reader is followed along words that are known.  It either finds a value, whatever it looked at
before, or it misses.  Values are known up to the places they hold.

* `Context.Shows`: the words that stand at a position.
* `Reader.Reads` and `Reader.Misses`: what a reader does at a position.
* `Starts`: the words that a reader can begin with.  As a class it is derived for a reader from the
  readers it is put together from.
* `Grammar.Settled`: a grammar with so many steps that its rules are read as they are written.

All readers are followed in the plain mood.
-/

namespace AdjointSynthesis.Code

/-! ## Values without places -/

/-- Values that may hold places. -/
class Placed (α : Type) where
  /-- The value without its places. -/
  bare : α → α

section
variable {α β : Type} [Placed α] [Placed β]

instance placedUnit : Placed Unit := ⟨id⟩
instance placedBool : Placed Bool := ⟨id⟩
instance placedString : Placed String := ⟨id⟩
instance placedToken : Placed Token := ⟨id⟩
instance placedOperator : Placed BinaryOperator := ⟨id⟩
instance placedPlace : Placed Place := ⟨View.bare.place⟩
instance placedSpan : Placed Span := ⟨View.bare.span⟩
instance placedExpr : Placed Expr := ⟨Expr.seen .bare⟩
instance placedForm : Placed Form := ⟨Form.seen .bare⟩
instance placedKeyword : Placed KeywordArgument := ⟨KeywordArgument.seen .bare⟩
instance placedLink : Placed Link := ⟨Link.seen .bare⟩
instance placedParameter : Placed Parameter := ⟨Parameter.seen .bare⟩
instance placedParameters : Placed Parameters := ⟨Parameters.seen .bare⟩
instance placedStmt : Placed Stmt := ⟨Stmt.seen .bare⟩
instance placedStmtForm : Placed StmtForm := ⟨StmtForm.seen .bare⟩
instance placedPattern : Placed Pattern := ⟨Pattern.seen .bare⟩
instance placedList : Placed (List α) := ⟨List.map Placed.bare⟩
instance placedOption : Placed (Option α) := ⟨Option.map Placed.bare⟩
instance placedProd : Placed (α × β) := ⟨Prod.map Placed.bare Placed.bare⟩
instance placedLateArgument : Placed Grammar.LateArgument := ⟨fun
  | .positional value => .positional (Placed.bare value)
  | .keyword argument => .keyword (Placed.bare argument)⟩
instance placedArguments : Placed Arguments :=
  ⟨fun found => ⟨0, Placed.bare found.positional, Placed.bare found.keywords⟩⟩

end

/-! ## Words -/

/-- What the grammar sees of a token. -/
structure Word where
  kind : Token.Kind
  /-- How a name or a number is written; other tokens are known by their kinds. -/
  written : List Char
deriving DecidableEq

/-- A word that is known by its kind. -/
def Token.Kind.word (kind : Token.Kind) : Word := ⟨kind, []⟩

/-- What the grammar sees of a token. -/
def Token.word (token : Token) : Word :=
  ⟨token.kind, if token.kind = .name ∨ token.kind = .number then token.written else []⟩

namespace Context

variable (c : Context)

/-- The word at a position. -/
def wordAt (i : Nat) : Option Word := c.source.tokens[i]?.map Token.word

/-- Some words stand at a position, one after the other. -/
def Shows (i : Nat) (words : List Word) : Prop :=
  words <+: (c.source.tokens.toList.drop i).map Token.word

variable {c} {i : Nat} {word : Word} {words more : List Word}

lemma shows_cons : c.Shows i (word :: words) ↔ c.wordAt i = some word ∧ c.Shows (i + 1) words := by
  unfold Shows wordAt
  rw [← Array.getElem?_toList]
  rcases Nat.lt_or_ge i c.source.tokens.toList.length with hlt | hge
  · rw [List.drop_eq_getElem_cons hlt, List.map_cons, List.cons_prefix_cons,
      List.getElem?_eq_getElem hlt, Option.map_some, Option.some.injEq]
    exact and_congr_left fun _ => eq_comm
  · simp [List.drop_eq_nil_of_le hge, List.getElem?_eq_none hge]

lemma Shows.wordAt (h : c.Shows i (word :: words)) : c.wordAt i = some word := (shows_cons.mp h).1

lemma Shows.tail (h : c.Shows i (word :: words)) : c.Shows (i + 1) words := (shows_cons.mp h).2

lemma Shows.append (h : c.Shows i (words ++ more)) : c.Shows (i + words.length) more := by
  induction words generalizing i with
  | nil => exact h
  | cons word words ih =>
    have := ih h.tail
    rwa [Nat.add_right_comm] at this

lemma Shows.left (h : c.Shows i (words ++ more)) : c.Shows i words :=
  (List.prefix_append words more).trans h

/-- A word of one of some kinds stands at a position. -/
def Meets (c : Context) (kinds : List Token.Kind) (i : Nat) : Prop :=
  ∃ word, c.wordAt i = some word ∧ word.kind ∈ kinds

lemma lt_size_of_wordAt (h : c.wordAt i = some word) : i < c.source.tokens.size := by
  by_contra hge
  rw [Context.wordAt, Array.getElem?_eq_none (Nat.le_of_not_lt hge)] at h
  cases h

lemma Shows.meets (h : c.Shows i (word :: words)) {kinds : List Token.Kind}
    (hkind : word.kind ∈ kinds) : c.Meets kinds i :=
  ⟨word, h.wordAt, hkind⟩

lemma Meets.lt_size {kinds : List Token.Kind} (h : c.Meets kinds i) :
    i < c.source.tokens.size := by
  obtain ⟨word, hword, -⟩ := h
  exact lt_size_of_wordAt hword

lemma Meets.mono {kinds more : List Token.Kind} (h : c.Meets kinds i) (hsub : kinds ⊆ more) :
    c.Meets more i := by
  obtain ⟨word, hword, hkind⟩ := h
  exact ⟨word, hword, hsub hkind⟩

end Context

/-! ## What a reader does at a position -/

namespace Reader

variable {α β : Type} [Placed α] [Placed β] {c : Context} {i j k : Nat}

/-- A reader finds a value up to places and stops behind it, whatever it looked at before. -/
def Reads (reader : Reader α) (c : Context) (i : Nat) (value : α) (behind : Nat) : Prop :=
  ∀ progress, ∃ found, (reader c i progress).1 = .found found behind ∧ Placed.bare found = value

/-- A reader finds nothing, whatever it looked at before. -/
def Misses {α : Type} (reader : Reader α) (c : Context) (i : Nat) : Prop :=
  ∀ progress, (reader c i progress).1 = .nothing

section
variable {r q : Reader α} {f : α → Reader β} {v v' : α} {u : β}

lemma Reads.exists_eq (h : r.Reads c i v j) (g : Progress) :
    ∃ w g', r c i g = (.found w j, g') ∧ Placed.bare w = v := by
  obtain ⟨w, hr, hw⟩ := h g
  exact ⟨w, (r c i g).2, Prod.ext hr rfl, hw⟩

lemma Misses.exists_eq {α : Type} {r : Reader α} (h : r.Misses c i) (g : Progress) :
    ∃ g', r c i g = (.nothing, g') :=
  ⟨(r c i g).2, Prod.ext (h g) rfl⟩

lemma Reads.pure (h : Placed.bare v = v') : (Pure.pure v : Reader α).Reads c i v' i :=
  fun _ => ⟨v, rfl, h⟩

lemma Reads.bind (h : r.Reads c i v j) (hf : ∀ w, Placed.bare w = v → (f w).Reads c j u k) :
    (r >>= f).Reads c i u k := by
  intro g
  obtain ⟨w, g', hr, hw⟩ := h.exists_eq g
  change ∃ found, (Reader.bind r f c i g).1 = .found found k ∧ _
  rw [Reader.bind, hr]
  exact hf w hw g'

omit [Placed β] in
lemma Reads.bind_misses (h : r.Reads c i v j) (hf : ∀ w, Placed.bare w = v → (f w).Misses c j) :
    (r >>= f).Misses c i := by
  intro g
  obtain ⟨w, g', hr, hw⟩ := h.exists_eq g
  change (Reader.bind r f c i g).1 = .nothing
  rw [Reader.bind, hr]
  exact hf w hw g'

lemma Misses.bind {α β : Type} {r : Reader α} {f : α → Reader β} (h : r.Misses c i) :
    (r >>= f).Misses c i := by
  intro g
  obtain ⟨g', hr⟩ := h.exists_eq g
  change (Reader.bind r f c i g).1 = .nothing
  rw [Reader.bind, hr]

lemma Reads.orElse (h : r.Reads c i v j) : (r <|> q).Reads c i v j := by
  intro g
  obtain ⟨w, g', hr, hw⟩ := h.exists_eq g
  refine ⟨w, ?_, hw⟩
  change (Reader.orElse r (fun _ => q) c i g).1 = .found w j
  rw [Reader.orElse, hr]

lemma Misses.orElse_reads (h : r.Misses c i) (hq : q.Reads c i v j) :
    (r <|> q).Reads c i v j := by
  intro g
  obtain ⟨g', hr⟩ := h.exists_eq g
  change ∃ found, (Reader.orElse r (fun _ => q) c i g).1 = .found found j ∧ _
  rw [Reader.orElse, hr]
  exact hq g'

lemma Misses.orElse {α : Type} {r q : Reader α} (h : r.Misses c i) (hq : q.Misses c i) :
    (r <|> q).Misses c i := by
  intro g
  obtain ⟨g', hr⟩ := h.exists_eq g
  change (Reader.orElse r (fun _ => q) c i g).1 = .nothing
  rw [Reader.orElse, hr]
  exact hq g'

lemma Reads.optional (h : r.Reads c i v j) : (Reader.optional r).Reads c i (some v) j := by
  intro g
  obtain ⟨w, g', hr, hw⟩ := h.exists_eq g
  exact ⟨some w, by rw [Reader.optional, hr], congrArg some hw⟩

lemma Misses.optional (h : r.Misses c i) : (Reader.optional r).Reads c i none i := by
  intro g
  obtain ⟨g', hr⟩ := h.exists_eq g
  exact ⟨none, by rw [Reader.optional, hr], rfl⟩

lemma Reads.ahead (h : r.Reads c i v j) : (Reader.ahead r).Reads c i () i := by
  intro g
  obtain ⟨w, g', hr, -⟩ := h.exists_eq g
  exact ⟨(), by rw [Reader.ahead, hr], rfl⟩

lemma Misses.ahead {α : Type} {r : Reader α} (h : r.Misses c i) : (Reader.ahead r).Misses c i := by
  intro g
  obtain ⟨g', hr⟩ := h.exists_eq g
  rw [Reader.ahead, hr]

lemma Misses.notAhead {α : Type} {r : Reader α} (h : r.Misses c i) :
    (Reader.notAhead r).Reads c i () i := by
  intro g
  obtain ⟨g', hr⟩ := h.exists_eq g
  exact ⟨(), by rw [Reader.notAhead, hr], rfl⟩

lemma Reads.discard (h : r.Reads c i v j) : (discard r).Reads c i () j :=
  h.bind (f := fun _ => Pure.pure ()) fun _ _ => .pure rfl

lemma Misses.discard {α : Type} {r : Reader α} (h : r.Misses c i) : (discard r).Misses c i :=
  h.bind (f := fun _ => Pure.pure ())

end

/-! ## Single tokens -/

section
variable {word : Word} {words : List Word} {kind : Token.Kind}

lemma exists_token (h : c.wordAt i = some word) :
    ∃ token, c.source.tokens[i]? = some token ∧ token.word = word :=
  Option.map_eq_some_iff.mp h

lemma reads_peek {token : Token} (h : c.source.tokens[i]? = some token) :
    peek.Reads c i token i :=
  fun _ => ⟨token, by simp [peek, h], rfl⟩

lemma reads_take {token : Token} (h : c.source.tokens[i]? = some token)
    (hkind : token.kind = kind) :
    (take kind).Reads c i token (i + 1) := by
  refine (reads_peek h).bind fun w hw => ?_
  obtain rfl : w = token := hw
  rw [if_pos hkind]
  exact fun _ => ⟨w, rfl, rfl⟩

lemma reads_discard_take (h : c.wordAt i = some word) (hkind : word.kind = kind) :
    (discard (take kind)).Reads c i () (i + 1) := by
  obtain ⟨token, htoken, rfl⟩ := exists_token h
  exact (reads_take htoken hkind).discard

lemma misses_take (h : c.wordAt i = some word) (hkind : word.kind ≠ kind) :
    (take kind).Misses c i := by
  obtain ⟨token, htoken, rfl⟩ := exists_token h
  refine (reads_peek htoken).bind_misses fun w hw => ?_
  obtain rfl : w = token := hw
  rw [if_neg (show ¬w.kind = kind from hkind)]
  exact fun _ => rfl

lemma reads_here (hi : i < c.source.tokens.size) : here.Reads c i default i :=
  (reads_peek (Array.getElem?_eq_getElem hi)).bind fun _ _ => .pure rfl

lemma reads_spanFrom {start : Place} : (spanFrom start).Reads c i default i :=
  fun _ => ⟨⟨start, wordEnd c.source.tokens i⟩, rfl, rfl⟩

variable {r : Reader α} {v : α}

lemma Reads.spanned (h : r.Reads c i v j) (hi : i < c.source.tokens.size) :
    (Reader.spanned r).Reads c i (default, v) j := by
  refine (reads_here hi).bind fun start _ => h.bind fun w hw => ?_
  exact reads_spanFrom.bind fun span hspan => .pure (Prod.ext hspan hw)

lemma Reads.expression {r : Reader Form} {form : Form} (h : r.Reads c i form j)
    (hi : i < c.source.tokens.size) : (Reader.expression r).Reads c i (.mk default form) j := by
  refine (h.spanned hi).bind ?_
  rintro ⟨span, found⟩ heq
  obtain ⟨hspan, hfound⟩ := Prod.ext_iff.mp heq
  exact .pure (congrArg₂ Expr.mk hspan hfound)

lemma Misses.expression {r : Reader Form} (h : r.Misses c i) (hi : i < c.source.tokens.size) :
    (Reader.expression r).Misses c i :=
  Misses.bind ((reads_here hi).bind_misses fun _ _ => h.bind)

lemma Reads.statement {r : Reader StmtForm} {form : StmtForm} (h : r.Reads c i form j)
    (hi : i < c.source.tokens.size) : (Reader.statement r).Reads c i (.mk default form) j := by
  refine (h.spanned hi).bind ?_
  rintro ⟨span, found⟩ heq
  obtain ⟨hspan, hfound⟩ := Prod.ext_iff.mp heq
  exact .pure (congrArg₂ Stmt.mk hspan hfound)

lemma Misses.statement {r : Reader StmtForm} (h : r.Misses c i) (hi : i < c.source.tokens.size) :
    (Reader.statement r).Misses c i :=
  Misses.bind ((reads_here hi).bind_misses fun _ _ => h.bind)

end

/-! ## Repetition -/

/-- What the steps of a repetition make of a value, up to the position where no step is left. -/
inductive Steps (step : α → Reader α) (c : Context) : Nat → α → α → Nat → Prop
  | stop {i : Nat} {v : α} (h : ∀ w, Placed.bare w = v → (step w).Misses c i) : Steps step c i v v i
  | go {i j k : Nat} {v u t : α} (h : ∀ w, Placed.bare w = v → (step w).Reads c i u j) (hij : i < j)
    (rest : Steps step c j u t k) : Steps step c i v t k

lemma Steps.le {step : α → Reader α} {v u : α} (h : Steps step c i v u j) : i ≤ j := by
  induction h with
  | stop => exact Nat.le_refl _
  | go _ hij _ ih => omega

lemma Steps.iterateUpTo {step : α → Reader α} {v u w : α} (h : Steps step c i v u j)
    (hw : Placed.bare w = v) {count : Nat} (hcount : j < i + count) :
    (Reader.iterateUpTo step count w).Reads c i u j := by
  induction h generalizing count w with
  | stop hstop =>
    obtain ⟨count, rfl⟩ : ∃ n, count = n + 1 := ⟨count - 1, by omega⟩
    intro g
    obtain ⟨g', hr⟩ := (hstop w hw).exists_eq g
    exact ⟨w, by simp only [Reader.iterateUpTo, hr], hw⟩
  | go hgo hij rest ih =>
    have := rest.le
    obtain ⟨count, rfl⟩ : ∃ n, count = n + 1 := ⟨count - 1, by omega⟩
    intro g
    obtain ⟨found, g', hr, hfound⟩ := (hgo w hw).exists_eq g
    simp only [Reader.iterateUpTo, hr]
    exact ih hfound (by omega) g'

lemma Steps.iterate {step : α → Reader α} {v u w : α} (h : Steps step c i v u j)
    (hw : Placed.bare w = v) (hj : j ≤ c.source.tokens.size) :
    (Reader.iterate step w).Reads c i u j :=
  fun g => h.iterateUpTo hw (by omega : j < i + (c.source.tokens.size + 1)) g

/-- Values in a row, up to the position where there is no other one. -/
inductive Repeats (r : Reader α) (c : Context) : Nat → List α → Nat → Prop
  | stop {i : Nat} (h : r.Misses c i) : Repeats r c i [] i
  | go {i j k : Nat} {v : α} {vs : List α} (h : r.Reads c i v j) (hij : i < j)
    (rest : Repeats r c j vs k) : Repeats r c i (v :: vs) k

lemma Repeats.many {r : Reader α} {vs : List α} (h : Repeats r c i vs j)
    (hj : j ≤ c.source.tokens.size) : (Reader.many r).Reads c i vs j := by
  have steps (before : List α) : Steps (fun values => do return (← r) :: values) c i before
      (vs.reverse ++ before) j := by
    induction h generalizing before with
    | stop hstop => exact .stop fun _ _ => hstop.bind
    | @go i j k v vs hgo hij _ ih =>
      refine .go (u := v :: before) (fun w hw => hgo.bind fun u hu => ?_) hij ?_
      · exact .pure (congrArg₂ List.cons hu hw)
      · have := ih hj (v :: before)
        rwa [List.reverse_cons, List.append_assoc]
  refine ((steps []).iterate rfl hj).bind fun w hw => .pure ?_
  rw [List.append_nil] at hw
  change w.reverse.map Placed.bare = vs
  rw [List.map_reverse]
  exact List.reverse_eq_iff.mpr hw

lemma Repeats.many1 {r : Reader α} {v : α} {vs : List α} (h : Repeats r c i (v :: vs) j)
    (hj : j ≤ c.source.tokens.size) : (Reader.many1 r).Reads c i (v :: vs) j := by
  cases h with
  | go hfirst _ rest =>
    exact hfirst.bind fun _ hvalue => (rest.many hj).bind fun _ hmore =>
      .pure (congrArg₂ List.cons hvalue hmore)

/-! ## Known faults -/

lemma misses_faults {α : Type} (hc : c.searching = false) {alternatives : List (Reader Unit)} :
    (Reader.faults alternatives : Reader α).Misses c i := by
  intro g
  simp [Reader.faults, hc]

end Reader

/-! ## The words that a reader begins with -/

/-- A reader only begins with words of some kinds. -/
class Starts (c : Context) {α : Type} (r : Reader α) (first : outParam (Token.Kind → Bool)) :
    Prop where
  misses : ∀ {i word}, c.wordAt i = some word → first word.kind = false → r.Misses c i

/-- A reader misses where no word stands that it begins with. -/
lemma Context.Meets.misses {c : Context} {kinds : List Token.Kind} {i : Nat}
    (h : c.Meets kinds i) {α : Type} {r : Reader α} {first : Token.Kind → Bool}
    [hr : Starts c r first] (hfirst : kinds.all (!first ·) = true) : r.Misses c i := by
  obtain ⟨word, hword, hkind⟩ := h
  exact hr.misses hword (by simpa using List.all_eq_true.mp hfirst word.kind hkind)

/-- A context in the plain mood. -/
class Context.IsPlain (c : Context) : Prop where
  plain : c.searching = false

namespace Reader

section
variable {α β : Type} {c : Context} {first other : Token.Kind → Bool} {r q : Reader α}

instance starts_take {kind : Token.Kind} : Starts c (take kind) (· == kind) :=
  ⟨fun h hfirst => misses_take h (by simpa using hfirst)⟩

instance starts_bind {f : α → Reader β} [h : Starts c r first] : Starts c (r >>= f) first :=
  ⟨fun hword hfirst => (h.misses hword hfirst).bind⟩

instance starts_discard [h : Starts c r first] : Starts c (discard r) first :=
  ⟨fun hword hfirst => (h.misses hword hfirst).discard⟩

instance starts_orElse [h : Starts c r first] [hq : Starts c q other] :
    Starts c (r <|> q) fun kind => first kind || other kind :=
  ⟨fun hword hfirst =>
    (h.misses hword (Bool.or_eq_false_iff.mp hfirst).1).orElse
      (hq.misses hword (Bool.or_eq_false_iff.mp hfirst).2)⟩

instance (priority := 2000) starts_here_bind {f : Place → Reader β}
    [h : ∀ start, Starts c (f start) first] : Starts c (here >>= f) first :=
  ⟨fun hword hfirst => (reads_here (Context.lt_size_of_wordAt hword)).bind_misses fun _ _ =>
    (h _).misses hword hfirst⟩

instance (priority := 3000) starts_here_orElse {f g : Place → Reader β}
    [h : ∀ start, Starts c (f start) first] [hg : ∀ start, Starts c (g start) other] :
    Starts c (here >>= fun start => f start <|> g start) fun kind => first kind || other kind :=
  ⟨fun hword hfirst => (reads_here (Context.lt_size_of_wordAt hword)).bind_misses fun start _ =>
    ((h start).misses hword (Bool.or_eq_false_iff.mp hfirst).1).orElse
      ((hg start).misses hword (Bool.or_eq_false_iff.mp hfirst).2)⟩

instance starts_faults [hc : c.IsPlain] {alternatives : List (Reader Unit)} :
    Starts c (Reader.faults alternatives : Reader α) fun _ => false :=
  ⟨fun _ _ => misses_faults hc.plain⟩

instance starts_spanned [h : Starts c r first] : Starts c (spanned r) first := by
  unfold spanned
  infer_instance

instance starts_expression {r : Reader Form} [h : Starts c r first] :
    Starts c (Reader.expression r) first := by
  unfold Reader.expression
  infer_instance

instance starts_statement {r : Reader StmtForm} [h : Starts c r first] :
    Starts c (Reader.statement r) first := by
  unfold Reader.statement
  infer_instance

instance starts_many1 [h : Starts c r first] : Starts c (many1 r) first := by
  unfold many1
  infer_instance

instance starts_separated {q : Reader β} [h : Starts c r first] :
    Starts c (separated q r) first := by
  unfold separated
  infer_instance

instance starts_committed {f : α → Reader β} [h : Starts c r first] :
    Starts c (committed r f) first := by
  unfold committed
  infer_instance

instance starts_unsettled [h : Starts c r first] : Starts c (unsettled r) first := by
  unfold unsettled
  infer_instance

instance starts_settle {r : Reader (Option α)} [h : Starts c r first] :
    Starts c (settle r) first := by
  unfold settle
  infer_instance

end

end Reader

/-! ## Enough steps for all rules -/

/-- How what a rule finds is seen without places. -/
@[reducible]
def placedResult : (rule : Rule) → Placed rule.Result
  | .arguments => placedArguments
  | .namedFault => placedUnit
  | .pattern => placedPattern
  | .block => (inferInstance : Placed (List Stmt))
  | .elifBranch => placedStmt
  | .expression | .starExpression | .disjunction | .inversion | .bitwiseOr | .factor | .primary
  | .text | .starTarget | .targetAtom | .targetPrimary | .singleTarget | .deleteTarget
  | .annotatedGroup => placedExpr

/-- A grammar whose rules are read as they are written. -/
class Grammar.Settled (sub : Grammar) (c : Context) : Prop where
  reads : ∀ {rule : Rule} {i : Nat} {v : rule.Result} {j : Nat}, rule.isRead = true →
    i ≤ c.source.tokens.size → @Reader.Reads _ (placedResult rule) (Grammar.ofRule sub rule) c i v j →
      @Reader.Reads _ (placedResult rule) (sub rule) c i v j
  misses : ∀ {rule : Rule} {i : Nat}, rule.isRead = true → i ≤ c.source.tokens.size →
    (Grammar.ofRule sub rule).Misses c i → (sub rule).Misses c i

section
variable {c : Context} {keeps : Array (List Finding) → Prop}

/-- What is alike in a text beside itself is the same. -/
lemma bare_eq_of_alike {rule : Rule} {a b : rule.Result}
    (h : (comparedResult rule).alike (besideItself (fun _ => true) c 0 keeps) a b) :
    (placedResult rule).bare a = (placedResult rule).bare b := by
  have hview : View.through (fun _ => true) = .plain := rfl
  have hexpr {a b : Expr} (h : a.seen .plain = b.seen (.through fun _ => true)) : a = b := by
    rwa [hview, Expr.seen_plain, Expr.seen_plain] at h
  have hkeyword {a b : KeywordArgument}
      (h : a.seen .plain = b.seen (.through fun _ => true)) : a = b := by
    rwa [hview, KeywordArgument.seen_plain, KeywordArgument.seen_plain] at h
  have hstmt {a b : Stmt} (h : a.seen .plain = b.seen (.through fun _ => true)) : a = b := by
    rwa [hview, Stmt.seen_plain, Stmt.seen_plain] at h
  have hpattern {a b : Pattern} (h : a.seen .plain = b.seen (.through fun _ => true)) : a = b := by
    rwa [hview, Pattern.seen_plain, Pattern.seen_plain] at h
  have hlist {α : Type} {R : α → α → Prop} (hR : ∀ a b, R a b → a = b) {l l' : List α}
      (h : List.Forall₂ R l l') : l = l' := by
    have := h.imp hR
    rwa [List.forall₂_eq_eq_eq] at this
  cases rule with
  | arguments =>
    obtain ⟨hpositional, hkeywords⟩ := h
    exact congrArg₂ (Arguments.mk 0) (congrArg _ (hlist (fun _ _ => hexpr) hpositional))
      (congrArg _ (hlist (fun _ _ => hkeyword) hkeywords))
  | namedFault => rfl
  | pattern => rw [hpattern h]
  | block => rw [hlist (fun _ _ => hstmt) h]
  | elifBranch => rw [hstmt h]
  | _ => rw [hexpr h]

/-- With enough steps, one step more finds the same. -/
theorem settled_forgetful [hc : c.IsPlain] {steps : Nat}
    (hsteps : 16 * weightFrom c.source.tokens 0 + 9 ≤ steps) :
    (Grammar.forgetful steps).Settled c := by
  have htest : PassesNames fun _ => true := fun _ _ => rfl
  have htested : Tested (fun _ => true) c := ⟨hc.plain, fun _ _ _ => rfl⟩
  have hneed (rule : Rule) (i : Nat) : need c.source.tokens rule i ≤ steps := by
    have := weightFrom_le c.source.tokens (Nat.zero_le i)
    have := rank_le rule
    unfold need
    omega
  -- Both counts of steps agree with one run of the grammar that remembers.
  have hboth (rule : Rule) (i : Nat) (hrule : rule.isRead = true) (hi : i ≤ c.source.tokens.size)
      (g : Progress) : ∃ o : Outcome rule.Result,
        (∃ keeps, FindingsAgree (besideItself (fun _ => true) c 0 keeps) rule i o
          (Grammar.forgetful steps rule c i g).1) ∧
        ∃ keeps, FindingsAgree (besideItself (fun _ => true) c 0 keeps) rule i o
          (Grammar.forgetful (steps + 1) rule c i g).1 := by
    have run (count : Nat) (hcount : steps ≤ count) :=
      (agrees_forgetful htest steps c htested 0 rule i steps count hrule (hneed rule i) (hneed rule i)
        (Nat.le_trans (hneed rule i) hcount) i (Reader.noProgress 0 0) g rfl hi coherent_noProgress).2
    exact ⟨_, ⟨_, run steps (Nat.le_refl _)⟩, _, run (steps + 1) (Nat.le_succ _)⟩
  constructor
  · intro rule i v j hrule hi hreads g
    obtain ⟨w, hfound, hw⟩ := hreads g
    obtain ⟨o, ⟨keeps, hless⟩, keeps', hmore⟩ := hboth rule i hrule hi g
    rw [show (Grammar.forgetful (steps + 1) rule c i g).1 = .found w j from hfound] at hmore
    cases o with
    | nothing => exact hmore.elim
    | refused => exact hmore.elim
    | found a k =>
      cases hrun : (Grammar.forgetful steps rule c i g).1 with
      | nothing => rw [hrun] at hless; exact hless.elim
      | refused => rw [hrun] at hless; exact hless.elim
      | found b m =>
        rw [hrun] at hless
        obtain rfl : m = k := hless.2.1
        obtain rfl : j = m := hmore.2.1
        exact ⟨b, rfl, ((bare_eq_of_alike hless.1).symm.trans (bare_eq_of_alike hmore.1)).trans hw⟩
  · intro rule i hrule hi hmisses g
    obtain ⟨o, ⟨keeps, hless⟩, keeps', hmore⟩ := hboth rule i hrule hi g
    rw [show (Grammar.forgetful (steps + 1) rule c i g).1 = .nothing from hmisses g] at hmore
    cases o with
    | found => exact hmore.elim
    | refused => exact hmore.elim
    | nothing =>
      cases hrun : (Grammar.forgetful steps rule c i g).1 with
      | nothing => rfl
      | found => rw [hrun] at hless; exact hless.elim
      | refused => rw [hrun] at hless; exact hless.elim

end

end AdjointSynthesis.Code

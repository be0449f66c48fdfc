import AdjointSynthesis.Proofs.Reading.Starts

/-!
# Functions on one line

A text of one line that begins with the head of a function without parameters holds this function and
nothing else, if it is a program at all.  The block of the function starts with the word behind the
head.

* `Context.IsOneLine`: no word stands behind the end of a line.
* `Triple.past`, `Triple.of_misses`: readers that are followed along words that are known.
* `Grammar.triple_blockRule`: a block on one line starts where it is read and leaves no words behind.
* `holdsFunction_of_read`: what a program on one line holds.
-/

namespace AdjointSynthesis.Code

open Reader

/-- From a position on no words are left. -/
def Context.IsBare (context : Context) (i : Nat) : Prop :=
  i ≤ context.source.tokens.size ∧
    ∀ j token, i ≤ j → context.source.tokens[j]? = some token → token.isLayout = true

/-- No word stands behind the end of a line. -/
def Context.IsOneLine (context : Context) : Prop :=
  ∀ i token, context.source.tokens[i]? = some token → token.kind = .newline → context.IsBare (i + 1)

/-- The first of some statements starts with the word at a position. -/
def Context.Opens (context : Context) (d : Nat) (statements : List Stmt) : Prop :=
  ∃ first rest, statements = first :: rest ∧ context.StartsAt d first

/-- A program is a function without parameters, and its block starts with the word at a position. -/
def Context.HoldsFunction (context : Context) (name : List Char) (d : Nat)
    (statements : List Stmt) : Prop :=
  ∃ span body token, statements =
      [.mk span (.function false (Grammar.identifierOf name) .none body [] none)] ∧
    context.source.tokens[0]? = some token ∧ span.start = token.span.start ∧ context.Opens d body

/-! ## Following words that are known -/

section
variable {α β : Type} {c : Context} {r : Reader α} {f : α → Reader β} {I : Nat → Prop} {i j : Nat}
  {Q : β → Nat → Prop}

namespace Triple

/-- What is found first is known, and so is where the rest starts. -/
lemma past [Placed α] {v : α} (h : r.Reads c i v j)
    (hf : ∀ a, Placed.bare a = v → Triple c (· = j) (f a) Q) : Triple c (· = i) (r >>= f) Q := by
  rintro _ progress value next after rfl hfound
  obtain ⟨a, between, hr, ha⟩ := h.exists_eq progress
  change Reader.bind r f c _ progress = _ at hfound
  rw [Reader.bind, hr] at hfound
  exact hf a ha _ _ _ _ _ rfl hfound

lemma of_misses {r : Reader β} (h : r.Misses c i) : Triple c (· = i) r Q := by
  rintro _ progress value next after rfl hfound
  obtain ⟨between, hr⟩ := h.exists_eq progress
  rw [hr] at hfound
  cases hfound

/-- Where nothing is found first, nothing is found. -/
lemma bind_nothing (h : Triple c I r fun _ _ => False) : Triple c I (r >>= f) Q :=
  h.bind fun _ _ _ _ _ _ hfalse => hfalse.elim

end Triple

end

namespace Grammar

variable {c : Context} {sub : Grammar} {d : Nat} [hc : c.IsPlain] [hready : Ready (itself c) sub sub]
  [hs : sub.Settled c]
include hc hready hs

/-! ## Behind the last word -/

omit hc hready hs in
lemma finds_nothing {r : Reader Stmt} (h : StartsBehind c r) (hbare : c.IsBare d) :
    Triple c (· = d) r fun _ _ => False := by
  refine (h d).weaken ?_ ?_
  · rintro _ rfl
    exact ⟨Nat.le_refl _, hbare.1⟩
  · rintro stmt - ⟨i, hi, token, htoken, hword, -⟩
    rw [hbare.2 i token hi htoken] at hword
    cases hword

lemma item_finds_nothing : Triple c c.IsBare (item sub) fun _ _ => False := by
  refine .of_forall fun d hbare => .orElse ?_ ?_
  · exact (finds_nothing startsBehind_compoundStatement hbare).bind_nothing
  · exact (finds_nothing startsBehind_simpleStatement hbare).bind_nothing.bind_nothing

lemma triple_many_item : Triple c c.IsBare (many (item sub)) fun found _ => found = [] := by
  refine Triple.bind (Q := fun found i => found = [] ∧ c.IsBare i) ?_ fun found => .pure ?_
  · have hstep (values : List (List Stmt)) :
        Triple c (fun i => values = [] ∧ c.IsBare i) (do return (← item sub) :: values)
          fun found i => found = [] ∧ c.IsBare i :=
      (item_finds_nothing.weaken (fun _ hi => hi.2) fun _ _ hfalse => hfalse).bind_nothing
    exact (Triple.iterate hstep []).weaken (fun _ hbare => ⟨rfl, hbare⟩) fun _ _ hfound => hfound
  · rintro _ ⟨rfl, -⟩
    rfl

/-! ## Blocks -/

omit hready in
/-- Statements on one line. -/
lemma triple_simpleStatements (hline : c.IsOneLine) :
    Triple c (· = d) (simpleStatements sub) fun found next => c.Opens d found ∧ c.IsBare next := by
  have hfound : Triple c (· = d) (separated (mark .semicolon) (simpleStatement sub))
      fun found _ => c.Opens d found := by
    refine (startsAt_simpleStatement d).bind fun first => ?_
    refine Triple.bind (Q := fun _ _ => c.StartsAt d first) ?_ fun more => .pure ?_
    · exact fun _ _ _ _ _ hstart _ => hstart
    · exact fun _ hstart => ⟨first, more, rfl, hstart⟩
  refine hfound.bind fun found => ?_
  refine (Triple.of_and (I := fun _ => True) (p := c.Opens d found) fun hopens => ?_).weaken
    (fun _ hopens => ⟨trivial, hopens⟩) fun _ _ hfound => hfound
  refine .behind fun _ => Triple.bind (Q := fun _ next => c.IsBare next) ?_ fun _ => .pure ?_
  · refine Triple.take.bind fun token => .pure ?_
    rintro _ ⟨i, -, rfl, htoken, hkind⟩
    exact hline i token htoken hkind
  · exact fun _ hbare => ⟨hopens, hbare⟩

/-- **A block on one line starts where it is read and leaves no words behind.** -/
lemma triple_blockRule (hline : c.IsOneLine) :
    Triple c (· = d) (blockRule sub) fun body next => c.Opens d body ∧ c.IsBare next := by
  refine .orElse ?_ (.orElse (triple_simpleStatements hline) .faults)
  -- statements further in would stand behind the end of a line
  refine triple_behindTake fun token htoken hkind => triple_behindTake fun indent hindent _ => ?_
  have hbare : c.IsBare (d + 1 + 1) := by
    refine ⟨(Array.getElem?_eq_some_iff.mp hindent).1, fun j token hj => ?_⟩
    exact (hline d _ htoken hkind).2 j token (by omega)
  have hnothing : Triple c (· = d + 1 + 1) (item sub) fun _ _ => False :=
    item_finds_nothing.weaken (by rintro _ rfl; exact hbare) fun _ _ hfalse => hfalse
  exact hnothing.bind_nothing.bind_nothing.bind_nothing

/-! ## Functions -/

/-- The words of the head of a function without parameters. -/
def emptyHead (name : List Char) : List Word :=
  [(Token.Kind.keyword .def_).word, nameWord name, (Token.Kind.mark .openParen).word,
    (Token.Kind.mark .closeParen).word, (Token.Kind.mark .colon).word]

omit hc hready hs in
/-- No parameters stand before the bracket that ends them. -/
lemma misses_parameters [c.IsPlain] (h : c.Meets [.mark .closeParen] d) :
    (parameters sub .function).Misses c d := by
  have hplain : (plainParameter sub .function).Misses c d := h.misses rfl
  have hdefault : (defaultParameter sub .function).Misses c d := h.misses rfl
  have hmany : (many (plainParameter sub .function)).Reads c d [] d :=
    (Repeats.stop hplain).many (Nat.le_of_lt h.lt_size)
  refine (misses_faults (Context.IsPlain.plain)).orElse <| Misses.orElse ?_ <| Misses.orElse ?_ <|
    Misses.orElse ?_ <| Misses.orElse ?_ (misses_starParameters h).bind
  · exact hplain.bind.bind.bind
  · exact (hmany.bind_misses fun _ _ => hdefault.bind.bind).bind
  · exact hplain.bind.bind
  · exact hdefault.bind.bind

omit hready hs in
/-- A function without parameters, from its block. -/
lemma triple_functionForm_of_block {name : List Char} {Q : List Stmt → Nat → Prop}
    (hshows : c.Shows d (emptyHead name)) (hblock : Triple c (· = d + 5) (sub .block) Q) :
    Triple c (· = d) (functionForm sub false []) fun form next => ∃ body,
      form = .function false (identifierOf name) .none body [] none ∧ Q body next := by
  have hclose : c.Meets [.mark .closeParen] (d + 1 + 1 + 1) :=
    hshows.tail.tail.tail.meets (List.mem_singleton_self _)
  have hcolon : c.Meets [.mark .colon] (d + 1 + 1 + 1 + 1) :=
    hshows.tail.tail.tail.tail.meets (List.mem_singleton_self _)
  have hint : (returnHint sub).Reads c _ none _ := Misses.optional (hcolon.misses rfl).discard.bind
  refine .past (reads_discard_take hshows.wordAt rfl) fun _ _ => ?_
  refine .past (reads_identifier hshows.tail.wordAt) fun found hname => ?_
  refine .past (reads_required hshows.tail.tail.wordAt) fun _ _ => ?_
  refine .past (misses_parameters hclose).optional fun parameters hparameters => ?_
  refine .past (reads_discard_take hshows.tail.tail.tail.wordAt rfl) fun _ _ => ?_
  refine .past hint fun annotation hnone => ?_
  refine .past (reads_required hshows.tail.tail.tail.tail.wordAt) fun _ _ => ?_
  refine hblock.bind fun body => .pure fun next hbody => ?_
  obtain rfl : found = identifierOf name := hname
  obtain rfl : parameters = none := Option.map_eq_none_iff.mp hparameters
  obtain rfl : annotation = none := Option.map_eq_none_iff.mp hnone
  exact ⟨body, rfl, hbody⟩

omit hready hs in
/-- Where the first word of a function stands, no other statement with a block is read. -/
lemma triple_compoundStatement_of_def {Q : Stmt → Nat → Prop} (hdef : c.Meets [.keyword .def_] d)
    (hfunction : Triple c (· = d) (functionDefinition sub) Q) :
    Triple c (· = d) (compoundStatement sub) Q := by
  refine .orElse (Triple.peek.bind fun token => ?_) (.of_misses ?_)
  · split
    · exact hfunction.weaken (fun _ hi => hi.1) fun _ _ hfound => hfound
    · exact .nothing
  · exact (hdef.misses rfl).orElse <| (hdef.misses rfl).orElse <| (hdef.misses rfl).orElse <|
      (hdef.misses rfl).orElse <| (hdef.misses rfl).orElse <| (hdef.misses rfl).orElse
        (hdef.misses rfl)

omit hready in
/-- Where the first word of a function stands, a function is read or nothing. -/
lemma triple_item_of_def {Q : StmtForm → Nat → Prop} (hdef : c.Meets [.keyword .def_] d)
    (hform : Triple c (· = d) (functionForm sub false []) Q) :
    Triple c (· = d) (item sub) fun found next => ∃ stmt token, found = [stmt] ∧
      c.source.tokens[d]? = some token ∧
      stmt.span = ⟨token.span.start, wordEnd c.source.tokens next⟩ ∧ Q stmt.form next := by
  have hasync : (functionForm sub true []).Misses c d := by
    unfold functionForm
    rw [if_pos rfl]
    exact (hdef.misses rfl).discard.bind
  have hsimple : (simpleStatement sub).Misses c d := by
    unfold simpleStatement returnStatement importStatement raiseStatement wordStatement
      assertStatement declaredNames
    exact hdef.misses (by decide)
  refine .orElse ?_ (.of_misses hsimple.bind.bind)
  refine (triple_compoundStatement_of_def hdef <| .orElse (.of_misses (hdef.misses rfl).bind) <|
    .orElse .faults (triple_statement (.orElse hform (.of_misses hasync)))).bind fun stmt => .pure ?_
  rintro next ⟨token, htoken, hspan, hstmt⟩
  exact ⟨stmt, token, rfl, htoken, hspan, hstmt⟩

/-! ## Programs -/

/-- What leaves no words behind is all that is read. -/
lemma triple_statements {P : List Stmt → Prop}
    (hitem : Triple c (· = d) (item sub) fun found next => P found ∧ c.IsBare next) :
    Triple c (· = d) (statements sub) fun found _ => P found := by
  refine Triple.bind (Q := fun rows _ => P rows.flatten) (hitem.bind fun found => ?_) fun rows =>
    .pure fun _ hrows => hrows
  refine (Triple.of_and (I := c.IsBare) (p := P found) fun hfound => ?_).weaken
    (fun _ hi => ⟨hi.2, hi.1⟩) fun _ _ hrows => hrows
  refine triple_many_item.bind fun more => .pure ?_
  rintro _ rfl
  simpa using hfound

omit hc hready hs in
/-- A program that starts with a word has statements. -/
lemma triple_program {P : List Stmt → Prop} (hword : (take .finish).Misses c d)
    (hstatements : Triple c (· = d) (statements sub) fun found _ => P found) :
    Triple c (· = d) (program sub) fun found _ => P found := by
  refine Triple.bind (Q := fun found next => (∀ part ∈ found, P part) ∧ (found = none → next = d))
    (Triple.optional ?_ ?_) fun found => ?_
  · refine hstatements.weaken (fun _ hi => hi) fun part next hpart => ⟨?_, nofun⟩
    rintro _ ⟨⟩
    exact hpart
  · exact fun next hnext => ⟨nofun, fun _ => hnext⟩
  · cases found with
    | none => exact (Triple.of_misses hword.discard.bind).weaken (fun _ hi => hi.2 rfl) fun _ _ h => h
    | some part =>
      refine (Triple.of_and (I := fun _ => True) (p := P part) fun hpart => ?_).weaken
        (fun _ hi => ⟨trivial, hi.1 part rfl⟩) fun _ _ hfound => hfound
      exact .behind fun _ => .pure fun _ _ => hpart

lemma triple_program_of_shows {name : List Char} (hshows : c.Shows 0 (emptyHead name))
    (hblock : Triple c (· = 5) (sub .block) fun body next => c.Opens 5 body ∧ c.IsBare next) :
    Triple c (· = 0) (program sub) fun found _ => c.HoldsFunction name 5 found := by
  have hdef : c.Meets [.keyword .def_] 0 := hshows.meets (List.mem_singleton_self _)
  refine triple_program (hdef.misses rfl) (triple_statements ?_)
  refine (triple_item_of_def hdef (triple_functionForm_of_block hshows hblock)).weaken
    (fun _ hi => hi) ?_
  rintro _ next ⟨⟨span, form⟩, token, rfl, htoken, hspan, body, hform, hopens, hbare⟩
  obtain rfl : form = _ := hform
  obtain rfl : span = _ := hspan
  exact ⟨⟨_, body, token, rfl, htoken, rfl, hopens⟩, hbare⟩

end Grammar

/-- **A text of one line that begins with the head of a function holds this function and nothing
else**, and the block of the function starts with the word behind the head. -/
theorem holdsFunction_of_read {text name : List Char} {statements : List Stmt}
    (hshows : Context.Shows ⟨.ofText text, false, false⟩ 0 (Grammar.emptyHead name))
    (hline : Context.IsOneLine ⟨.ofText text, false, false⟩) (hread : read text = .ok statements) :
    Context.HoldsFunction ⟨.ofText text, false, false⟩ name 5 statements := by
  let steps := Grammar.stepsFor text + (16 * weightFrom (TokenSequence.ofText text).tokens 0 + 9)
  have hsteps : Grammar.stepsFor text ≤ steps + 1 := by omega
  have hplain : Context.IsPlain ⟨.ofText text, false, false⟩ := ⟨rfl⟩
  have hsettled (more : Nat) :
      (Grammar.forgetful (steps + more)).Settled ⟨.ofText text, false, false⟩ :=
    settled_forgetful (by dsimp only; omega)
  have hready (more : Nat) : Ready (itself ⟨.ofText text, false, false⟩)
      (Grammar.forgetful (steps + more)) (Grammar.forgetful (steps + more)) :=
    Grammar.ready_forgetful rfl _
  have hblock : Triple ⟨.ofText text, false, false⟩ (· = 5) (Grammar.forgetful (steps + 1) .block)
      fun body next => Context.Opens _ 5 body ∧ Context.IsBare _ next :=
    have := hsettled 0
    have := hready 0
    Grammar.triple_blockRule hline
  have := hsettled 1
  have := hready 1
  exact Triple.of_readAll (Grammar.triple_program_of_shows hshows hblock) rfl
    ((read_eq_ok_iff hsteps statements).mp hread)

end AdjointSynthesis.Code

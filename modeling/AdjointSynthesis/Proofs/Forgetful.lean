import AdjointSynthesis.Code.Read
import AdjointSynthesis.Proofs.Agreement.CompoundStatements
import AdjointSynthesis.Proofs.Agreement.Texts
import AdjointSynthesis.Proofs.Tokens

/-!
# Reading without memory

The grammar remembers what each rule found at a position, and it stops at a count of steps.
Neither makes a difference: with enough steps for the tokens still to read, a rule finds what the
grammar without memory finds, and any larger count of steps gives the same.

* `need`: how many steps are enough.  A token counts for its weight, and rules that begin with each
  other are ranked.
* `Coherent`: what is remembered is what the grammar without memory finds.
* `agrees_forgetful`: the two grammars agree.
* `names_tested`: the names of a program all pass a test that the words for names pass.
-/

namespace AdjointSynthesis.Code

open Reader

namespace Grammar

/-- The grammar with a number of steps left and without memory. -/
def forgetful : Nat → Grammar
  | 0 => fun _ => .nothing
  | steps + 1 => fun rule => ofRule (forgetful steps) rule

end Grammar

/-! ## Enough steps -/

/-- The weight of the tokens from a position on. -/
def weightFrom (tokens : Array Token) (i : Nat) : Nat := weigh (tokens.toList.drop i)

/-- Rules of a higher rank may begin with those of a lower one. -/
def Rule.rank : Rule → Nat
  | .text => 0
  | .primary => 1
  | .factor => 2
  | .bitwiseOr => 3
  | .inversion => 4
  | .disjunction => 5
  | .expression => 6
  | .starExpression => 7
  | .arguments => 7
  | .targetPrimary => 1
  | .targetAtom => 2
  | .starTarget => 3
  | .singleTarget => 2
  | .deleteTarget => 2
  | .pattern => 1
  | .block => 8
  | .elifBranch => 0
  | .namedFault => 0
  | .annotatedGroup => 0

/-- Steps that are enough for a rule at a position. -/
def need (tokens : Array Token) (rule : Rule) (i : Nat) : Nat :=
  16 * weightFrom tokens i + rule.rank + 1

lemma weigh_drop_le (tokens : List Token) {i j : Nat} (h : i ≤ j) :
    weigh (tokens.drop j) ≤ weigh (tokens.drop i) := by
  obtain ⟨k, rfl⟩ := Nat.exists_eq_add_of_le h
  have := weigh_append ((tokens.drop i).take k) ((tokens.drop i).drop k)
  rw [List.take_append_drop, List.drop_drop] at this
  omega

lemma weightFrom_le (tokens : Array Token) {i j : Nat} (h : i ≤ j) :
    weightFrom tokens j ≤ weightFrom tokens i := weigh_drop_le tokens.toList h

lemma weightFrom_of_getElem {tokens : Array Token} {i : Nat} {token : Token}
    (h : tokens[i]? = some token) : weightFrom tokens i = token.weight + weightFrom tokens (i + 1) := by
  rw [← Array.getElem?_toList] at h
  obtain ⟨hlt, rfl⟩ := List.getElem?_eq_some_iff.mp h
  rw [weightFrom, List.drop_eq_getElem_cons hlt]
  rfl

lemma weightFrom_lt {tokens : Array Token} {i j : Nat} (h : i < j) (hj : j ≤ tokens.size) :
    weightFrom tokens j < weightFrom tokens i := by
  have hi : i < tokens.size := by omega
  have hsucc := weightFrom_of_getElem (Array.getElem?_eq_getElem hi)
  have hpos := (tokens[i]).one_le_weight
  have hle := weightFrom_le tokens (show i + 1 ≤ j from h)
  omega

lemma rank_le (rule : Rule) : rule.rank ≤ 8 := by cases rule <;> decide

/-- At the same position fewer steps are enough for a rule of a lower rank. -/
lemma need_lt_of_rank_lt {tokens : Array Token} {i j : Nat} {rule other : Rule} (h : i ≤ j)
    (hrank : other.rank < rule.rank) : need tokens other j < need tokens rule i := by
  have := weightFrom_le tokens h
  unfold need
  omega

/-! ## A text beside itself -/

/-- A context in the plain mood whose names pass a test. -/
structure Tested (test : String → Bool) (context : Context) : Prop where
  plain : context.searching = false
  names : ∀ token ∈ context.source.tokens.toList, token.kind = .name →
    test (String.ofList (Text.normalForm token.written)) = true

/-- A text beside itself, seen on the right through a test of its variables. -/
def besideItself (test : String → Bool) (context : Context) (origin : Nat)
    (keeps : Array (List Finding) → Prop) : Pairing where
  left := context
  right := context
  leftView := .plain
  rightView := .through test
  shift := 0
  stop := context.source.tokens.size
  origin := origin
  keeps := keeps

section

variable {test : String → Bool} {context : Context} {origin : Nat}
  {keeps : Array (List Finding) → Prop}

lemma fair_besideItself (h : Tested test context) :
    (besideItself test context origin keeps).Fair where
  leftPlain := h.plain
  rightPlain := h.plain
  beside i hi := by
    have htoken := Array.getElem?_eq_getElem hi
    exact ⟨_, _, htoken, htoken, rfl, rfl, rfl⟩
  parting := by
    have hnone : context.source.tokens[context.source.tokens.size]? = none :=
      Array.getElem?_eq_none (Nat.le_refl _)
    exact .inr ⟨hnone, hnone, Iff.rfl⟩
  names i token _ htoken hname := by
    have hmem : token ∈ context.source.tokens.toList :=
      Array.mem_toList_iff.mpr (Array.mem_of_getElem? htoken)
    show _ = if test _ = true then _ else _
    rw [if_pos (h.names token hmem hname)]
    rfl
  ends i _ := rfl

/-- No token stands at the end. -/
lemma isWhole_besideItself : (besideItself test context origin keeps).IsWhole :=
  ⟨Array.getElem?_eq_none (Nat.le_refl _), Array.getElem?_eq_none (Nat.le_refl _)⟩

end

/-! ## What is remembered -/

/-- How what a rule finds is compared. -/
@[reducible]
def comparedResult : (rule : Rule) → Compared rule.Result
  | .arguments => comparedArguments
  | .namedFault => comparedUnit
  | .pattern => comparedPattern
  | .block => (inferInstance : Compared (List Stmt))
  | .elifBranch => comparedStmt
  | .expression | .starExpression | .disjunction | .inversion | .bitwiseOr | .factor | .primary
  | .text | .starTarget | .targetAtom | .targetPrimary | .singleTarget | .deleteTarget
  | .annotatedGroup => comparedExpr

/-- Two readers of a rule agree at a position. -/
def RulesAgree (p : Pairing) (rule : Rule) (i : Nat) (reader other : Reader rule.Result) : Prop :=
  @Agrees _ (comparedResult rule) p (· = i) true reader other

/-- Two outcomes of a rule agree at a position. -/
def FindingsAgree (p : Pairing) (rule : Rule) (i : Nat) (o o' : Outcome rule.Result) : Prop :=
  @OutcomesAgree _ (comparedResult rule) p true i o o'

/-- What is remembered, as an outcome. -/
def outcomeOf {α : Type} : Option (α × Nat) → Outcome α
  | some (value, behind) => .found value behind
  | none => .nothing

/-- What is remembered is what the grammar without memory finds with enough steps. -/
def Coherent (test : String → Bool) (context : Context) (findings : Array (List Finding)) : Prop :=
  ∀ i finding, finding ∈ findings[i]?.getD [] → ∀ steps progress,
    need context.source.tokens finding.rule i ≤ steps →
      FindingsAgree (besideItself test context 0 fun _ => True) finding.rule i
        (outcomeOf finding.found) (Grammar.forgetful steps finding.rule context i progress).1

lemma mem_of_recalled? {rule : Rule} {findings : List Finding}
    {found : Option (rule.Result × Nat)} (h : recalled? rule findings = some found) :
    ⟨rule, found⟩ ∈ findings := by
  induction findings with
  | nil => cases h
  | cons finding rest ih =>
    unfold recalled? at h
    split at h
    · next hrule =>
      subst hrule
      cases h
      exact List.mem_cons_self
    · exact List.mem_cons_of_mem _ (ih h)

lemma coherent_noProgress {test : String → Bool} {context : Context} {reach count : Nat} :
    Coherent test context (noProgress reach count).findings := by
  intro i finding hmem
  have hnil : (Array.replicate (count + 1) ([] : List Finding))[i]?.getD [] = [] := by
    rw [Array.getElem?_replicate]
    split <;> rfl
  rw [noProgress, hnil] at hmem
  cases hmem

/-- A finding that is right may be remembered. -/
lemma Coherent.modify {test : String → Bool} {context : Context} {findings : Array (List Finding)}
    (h : Coherent test context findings) (i : Nat) (finding : Finding)
    (hfinding : ∀ steps progress, need context.source.tokens finding.rule i ≤ steps →
      FindingsAgree (besideItself test context 0 fun _ => True) finding.rule i
        (outcomeOf finding.found) (Grammar.forgetful steps finding.rule context i progress).1) :
    Coherent test context (findings.modify i (finding :: ·)) := by
  intro j other hmem
  rw [Array.getElem?_modify] at hmem
  split at hmem
  · next hij =>
    subst hij
    cases hold : findings[i]? with
    | none =>
      rw [hold] at hmem
      cases hmem
    | some list =>
      rw [hold, Option.map_some, Option.getD_some] at hmem
      rcases List.mem_cons.mp hmem with rfl | hmem
      · exact hfinding
      · exact h i other (by rw [hold]; exact hmem)
  · exact h j other hmem

/-! ## One rule -/

/-- A rule that the plain mood reads. -/
def Rule.isRead : Rule → Bool
  | .namedFault | .annotatedGroup => false
  | _ => true

section

variable {test : String → Bool} {context : Context} {origin : Nat} {rule : Rule} {i : Nat}

/-- The origin of a pairing does not matter for what a rule finds. -/
lemma RulesAgree.move {reader other : Reader rule.Result} (origin' : Nat)
    (h : RulesAgree (besideItself test context origin (Coherent test context)) rule i reader other) :
    RulesAgree (besideItself test context origin' (Coherent test context)) rule i reader other := by
  cases rule <;> exact h

lemma FindingsAgree.move {keeps keeps' : Array (List Finding) → Prop} {o o' : Outcome rule.Result}
    (origin' : Nat) (h : FindingsAgree (besideItself test context origin keeps) rule i o o') :
    FindingsAgree (besideItself test context origin' keeps') rule i o o' := by
  cases rule <;> exact h

/-- To remember what a rule finds makes no difference. -/
lemma rulesAgree_remembering {reader : Reader rule.Result}
    (h : ∀ steps, need context.source.tokens rule i ≤ steps →
      RulesAgree (besideItself test context origin (Coherent test context)) rule i reader
        (Grammar.forgetful steps rule))
    (steps : Nat) (hsteps : need context.source.tokens rule i ≤ steps) :
    RulesAgree (besideItself test context origin (Coherent test context)) rule i
      (remembering rule reader) (Grammar.forgetful steps rule) := by
  intro j g g' hj hstop hg
  obtain rfl : j = i := hj
  have hread (steps : Nat) (hsteps : need context.source.tokens rule j ≤ steps) (g' : Progress) :
      Coherent test context (reader context j g).2.findings ∧
        FindingsAgree (besideItself test context 0 fun _ => True) rule j (reader context j g).1
          (Grammar.forgetful steps rule context j g').1 := by
    have hone := h steps hsteps j g g' rfl hstop hg
    exact ⟨hone.1, FindingsAgree.move 0 hone.2⟩
  suffices hall : Coherent test context (remembering rule reader context j g).2.findings ∧
      FindingsAgree (besideItself test context 0 fun _ => True) rule j
        (remembering rule reader context j g).1 (Grammar.forgetful steps rule context j g').1 from
    ⟨hall.1, FindingsAgree.move origin hall.2⟩
  unfold remembering
  split
  · next hrecalled => exact ⟨hg, hg _ _ (mem_of_recalled? hrecalled) steps g' hsteps⟩
  · next hrecalled => exact ⟨hg, hg _ _ (mem_of_recalled? hrecalled) steps g' hsteps⟩
  · revert hread
    rcases reader context j g with ⟨o, reach, findings⟩
    intro hread
    have hg₁ := (hread steps hsteps g').1
    cases o with
    | found value behind =>
      refine ⟨hg₁.modify _ ⟨rule, some (value, behind)⟩ ?_, (hread steps hsteps g').2⟩
      exact fun steps g' hsteps => (hread steps hsteps g').2
    | nothing =>
      refine ⟨hg₁.modify _ ⟨rule, none⟩ ?_, (hread steps hsteps g').2⟩
      exact fun steps g' hsteps => (hread steps hsteps g').2
    | refused fault broken => exact ⟨hg₁, (hread steps hsteps g').2⟩

end

/-! ## Whole texts -/

/-- A text is read when the plain mood finds something. -/
lemma readAll_eq_ok_iff {α : Type} {reader : Reader α} {source : TokenSequence} {inField : Bool}
    {value : α} : readAll reader source inField = .ok value ↔
      ∃ behind, (reader ⟨source, false, inField⟩ 0 (noProgress 0 source.tokens.size)).1 =
        .found value behind := by
  unfold readAll
  rcases hread : reader ⟨source, false, inField⟩ 0 (noProgress 0 source.tokens.size) with ⟨o, first⟩
  dsimp only
  cases o with
  | found found behind => simp [hread]
  | refused fault broken => simp [hread]
  | nothing =>
    refine ⟨fun h => ?_, fun ⟨behind, h⟩ => by cases h⟩
    simp only [hread] at h
    split at h
    · cases h
    · split at h
      · split at h <;> cases h
      · cases h

/-- Whole texts are read alike when they are in the plain mood. -/
lemma resultsAgree_readAll {α : Type} [Compared α] {p : Pairing} {s : Bool} {r r' : Reader α}
    {source source' : TokenSequence} {inField : Bool}
    (h : OutcomesAgree p s 0 (r ⟨source, false, inField⟩ 0 (noProgress 0 source.tokens.size)).1
      (r' ⟨source', false, inField⟩ 0 (noProgress 0 source'.tokens.size)).1) :
    ResultsAgree p (readAll r source inField) (readAll r' source' inField) := by
  cases hleft : readAll r source inField with
  | ok value =>
    obtain ⟨behind, hfound⟩ := readAll_eq_ok_iff.mp hleft
    rw [hfound] at h
    cases ho : (r' ⟨source', false, inField⟩ 0 (noProgress 0 source'.tokens.size)).1 with
    | found value' behind' =>
      rw [ho] at h
      rw [readAll_eq_ok_iff.mpr ⟨behind', ho⟩]
      exact h.1
    | nothing => rw [ho] at h; exact h.elim
    | refused _ _ => rw [ho] at h; exact h.elim
  | error fault =>
    cases hright : readAll r' source' inField with
    | error fault' => trivial
    | ok value' =>
      obtain ⟨behind', hfound⟩ := readAll_eq_ok_iff.mp hright
      rw [hfound] at h
      cases ho : (r ⟨source, false, inField⟩ 0 (noProgress 0 source.tokens.size)).1 with
      | found value behind =>
        rw [readAll_eq_ok_iff.mpr ⟨behind, ho⟩] at hleft
        cases hleft
      | nothing => rw [ho] at h; exact h.elim
      | refused _ _ => rw [ho] at h; exact h.elim

/-- Readers that agree from the start on read whole texts alike. -/
lemma resultsAgree_of_agrees {α : Type} [Compared α] {p : Pairing} {s : Bool} {r r' : Reader α}
    {source source' : TokenSequence} {inField : Bool} (hleft : p.left = ⟨source, false, inField⟩)
    (hright : p.right = ⟨source', false, inField⟩) (hshift : p.shift = 0) (horigin : p.origin = 0)
    (hkeeps : p.keeps (noProgress 0 source.tokens.size).findings)
    (h : Agrees p (p.starts true) s r r') :
    ResultsAgree p (readAll r source inField) (readAll r' source' inField) := by
  have hrun := (h 0 (noProgress 0 source.tokens.size) (noProgress 0 source'.tokens.size)
    (Nat.le_of_eq horigin) (Nat.zero_le _) hkeeps).2
  rw [hleft, hright, hshift] at hrun
  exact resultsAgree_readAll hrun

/-! ## Fields -/

/-- The words for names pass a test in their normal form. -/
def PassesNames (test : String → Bool) : Prop :=
  ∀ word, IsName word → test (String.ofList (Text.normalForm word)) = true

/-- The tokens of a field are those of its expression in brackets, moved. -/
lemma exists_move (place : Place) (expression : List Char) : ∃ move : Token → Token,
    (fieldTokens place expression).tokens.toList =
      (TokenSequence.ofLines place.line ('(' :: expression ++ [')'])).tokens.toList.map move ∧
    ∀ token, (move token).kind = token.kind ∧ (move token).written = token.written := by
  refine ⟨_, Array.toList_map, fun token => ?_⟩
  dsimp only
  split <;> exact ⟨rfl, rfl⟩

lemma tested_ofText {test : String → Bool} (htest : PassesNames test) (text : List Char)
    (inField : Bool) : Tested test ⟨.ofText text, false, inField⟩ where
  plain := rfl
  names _ hmem hname := htest _ (isName_of_mem_ofLines hmem hname)

lemma tested_fieldTokens {test : String → Bool} (htest : PassesNames test) (place : Place)
    (expression : List Char) (inField : Bool) :
    Tested test ⟨fieldTokens place expression, false, inField⟩ where
  plain := rfl
  names token hmem hname := by
    obtain ⟨move, htokens, hmove⟩ := exists_move place expression
    rw [htokens] at hmem
    obtain ⟨source, hsource, rfl⟩ := List.mem_map.mp hmem
    rw [(hmove source).1] at hname
    rw [(hmove source).2]
    exact htest _ (isName_of_mem_ofLines hsource hname)

lemma weightFrom_fieldTokens (place : Place) (expression : List Char) :
    weightFrom (fieldTokens place expression).tokens 0 ≤ 2 * expression.length + 7 := by
  obtain ⟨move, htokens, hmove⟩ := exists_move place expression
  have hweigh (tokens : List Token) : weigh (tokens.map move) = weigh tokens := by
    induction tokens with
    | nil => rfl
    | cons token rest ih =>
      rw [List.map_cons, weigh_cons, weigh_cons, ih, Token.weight, Token.weight, (hmove token).2]
  have hlines := weigh_ofLines place.line ('(' :: expression ++ [')'])
  have hlen : ('(' :: expression ++ [')']).length = expression.length + 2 := by simp
  rw [weightFrom, List.drop_zero, htokens, hweigh]
  omega

/-! ## All rules -/

/-- The two grammars agree on each rule, where so many steps are enough. -/
def AgreeUpTo (test : String → Bool) (bound : Nat) : Prop :=
  ∀ context, Tested test context → ∀ origin (rule : Rule) i steps steps', rule.isRead = true →
    need context.source.tokens rule i ≤ bound → need context.source.tokens rule i ≤ steps →
      need context.source.tokens rule i ≤ steps' →
        RulesAgree (besideItself test context origin (Coherent test context)) rule i
          (Grammar.upTo steps rule) (Grammar.forgetful steps' rule)

section

variable {test : String → Bool} {bound : Nat} {context : Context} {steps steps' : Nat}

/-- A field is read alike: its tokens weigh less than the token it stands in. -/
lemma field_agrees (htest : PassesNames test) (ih : AgreeUpTo test bound)
    {keeps : Array (List Finding) → Prop} {origin weight : Nat}
    (hbound : 16 * weight ≤ bound) (hsteps : 16 * weight ≤ steps) (hsteps' : 16 * weight ≤ steps')
    (place : Place) (expression : List Char) (hlen : 2 * (expression.length + 5) ≤ weight) :
    ResultsAgree (besideItself test context origin keeps)
      (readAll (Grammar.starExpressions (Grammar.upTo steps)) (fieldTokens place expression) true)
      (readAll (Grammar.starExpressions (Grammar.forgetful steps')) (fieldTokens place expression)
        true) := by
  have hweight := weightFrom_fieldTokens place expression
  let context : Context := ⟨fieldTokens place expression, false, true⟩
  let p := besideItself test context 0 (Coherent test context)
  have htested : Tested test context := tested_fieldTokens htest place expression true
  have hfair : p.Fair := fair_besideItself htested
  have hneed (j : Nat) : need context.source.tokens .starExpression j ≤ 16 * weight := by
    have : weightFrom context.source.tokens j ≤ 2 * expression.length + 7 :=
      Nat.le_trans (weightFrom_le _ (Nat.zero_le j)) hweight
    simp only [need, Rule.rank]
    omega
  have rule : Agree p true true (Grammar.upTo steps .starExpression)
      (Grammar.forgetful steps' .starExpression) := by
    refine ⟨fun j g g' _ hstop hg => ?_⟩
    have := hneed j
    exact ih context htested 0 .starExpression j steps steps' rfl (by omega) (by omega) (by omega)
      j g g' rfl hstop hg
  have all : Agree p true true (Grammar.starExpressions (Grammar.upTo steps))
      (Grammar.starExpressions (Grammar.forgetful steps')) := by
    unfold Grammar.starExpressions
    infer_instance
  exact resultsAgree_of_agrees (p := p) rfl rfl rfl rfl coherent_noProgress all.agrees

/-- The rules agree from an origin on if so many steps are enough there. -/
lemma ready_of_agreeUpTo (htest : PassesNames test) (ih : AgreeUpTo test bound)
    (htested : Tested test context) {origin limit : Nat}
    (hneed : ∀ rule j, origin ≤ j → j ≤ context.source.tokens.size →
      need context.source.tokens rule j ≤ limit)
    (hweight : ∀ j, origin ≤ j + 1 → 16 * weightFrom context.source.tokens j ≤ limit)
    (hbound : limit ≤ bound) (hsteps : limit ≤ steps) (hsteps' : limit ≤ steps') :
    Ready (besideItself test context origin (Coherent test context)) (Grammar.upTo steps)
      (Grammar.forgetful steps') := by
  have all (rule : Rule) (hread : rule.isRead = true) :
      @Agrees _ (comparedResult rule) (besideItself test context origin (Coherent test context))
        (fun j => origin ≤ j) true (Grammar.upTo steps rule) (Grammar.forgetful steps' rule) := by
    intro j g g' hj hstop hg
    have := hneed rule j hj hstop
    exact ih context htested origin rule j steps steps' hread (by omega) (by omega) (by omega)
      j g g' rfl hstop hg
  exact {
    expression := ⟨all .expression rfl⟩
    starExpression := ⟨all .starExpression rfl⟩
    disjunction := ⟨all .disjunction rfl⟩
    inversion := ⟨all .inversion rfl⟩
    bitwiseOr := ⟨all .bitwiseOr rfl⟩
    factor := ⟨all .factor rfl⟩
    primary := ⟨all .primary rfl⟩
    text := ⟨all .text rfl⟩
    arguments := ⟨all .arguments rfl⟩
    starTarget := ⟨all .starTarget rfl⟩
    targetAtom := ⟨all .targetAtom rfl⟩
    targetPrimary := ⟨all .targetPrimary rfl⟩
    singleTarget := ⟨all .singleTarget rfl⟩
    deleteTarget := ⟨all .deleteTarget rfl⟩
    pattern := ⟨all .pattern rfl⟩
    elifBranch := ⟨all .elifBranch rfl⟩
    block := fun j g g' hj hstop hg => all .block rfl j g g' hj.1 hstop hg
    field := by
      intro token other before behindBrace expression h hlen
      obtain ⟨j, hj, hstart, htoken, hother⟩ := h.position
      obtain rfl : token = other := Option.some.inj (htoken.symm.trans hother)
      have hlimit := hweight j hstart
      have htoken : weightFrom context.source.tokens j =
        token.weight + weightFrom context.source.tokens (j + 1) := weightFrom_of_getElem htoken
      have htwice : 2 * token.written.length ≤ token.weight := Nat.le_max_right _ _
      exact field_agrees htest ih (Nat.le_trans hlimit hbound) (Nat.le_trans hlimit hsteps)
        (Nat.le_trans hlimit hsteps') _ _ (by omega) }

/-- What a rule finds does not depend on what is remembered and how many steps are left. -/
lemma rulesAgree_ofRule (htest : PassesNames test) (ih : AgreeUpTo test bound)
    (htested : Tested test context) {rule : Rule} {i : Nat} (hread : rule.isRead = true)
    (hbound : need context.source.tokens rule i ≤ bound + 1)
    (hsteps : need context.source.tokens rule i ≤ steps + 1)
    (hsteps' : need context.source.tokens rule i ≤ steps' + 1) :
    RulesAgree (besideItself test context (i + 1) (Coherent test context)) rule i
      (Grammar.ofRule (Grammar.upTo steps) rule) (Grammar.ofRule (Grammar.forgetful steps') rule) := by
  have hneed : need context.source.tokens rule i =
    16 * weightFrom context.source.tokens i + rule.rank + 1 := rfl
  have hfair : (besideItself test context (i + 1) (Coherent test context)).Fair :=
    fair_besideItself htested
  have ready : Ready (besideItself test context (i + 1) (Coherent test context))
      (Grammar.upTo steps) (Grammar.forgetful steps') := by
    refine ready_of_agreeUpTo htest ih htested (fun other j hj hstop => ?_) (fun j hj => ?_)
      (show 16 * weightFrom context.source.tokens i ≤ bound by omega) (by omega) (by omega)
    · have hweight := weightFrom_lt hj hstop
      have hrank := rank_le other
      unfold need
      omega
    · have := weightFrom_le context.source.tokens (Nat.le_of_succ_le_succ hj)
      omega
  have lower (other : Rule) (hread : other.isRead = true) (hrank : other.rank < rule.rank) :
      @Agree _ (comparedResult other) (besideItself test context (i + 1) (Coherent test context))
        false true (Grammar.upTo steps other) (Grammar.forgetful steps' other) := by
    refine @Agree.mk _ (comparedResult other) _ _ _ _ _ fun j g g' hj hstop hg => ?_
    have : need context.source.tokens other j < need context.source.tokens rule i :=
      need_lt_of_rank_lt (Nat.le_of_succ_le_succ hj) hrank
    exact ih context htested (i + 1) other j steps steps' hread (by omega) (by omega) (by omega)
      j g g' rfl hstop hg
  have here {α : Type} [Compared α] {r r' : Reader α} (h : Agree
      (besideItself test context (i + 1) (Coherent test context)) false true r r') :
      Agrees (besideItself test context (i + 1) (Coherent test context)) (· = i) true r r' :=
    h.agrees.mono fun j _ hj => hj ▸ Nat.le_refl _
  cases rule with
  | namedFault => cases hread
  | annotatedGroup => cases hread
  | text => exact here Grammar.agree_textRule
  | primary =>
    have := lower .text rfl (by decide)
    exact here Grammar.agree_primaryRule
  | factor =>
    have := lower .primary rfl (by decide)
    exact here Grammar.agree_factorRule
  | bitwiseOr =>
    have := lower .factor rfl (by decide)
    exact here Grammar.agree_bitwiseOrRule
  | inversion =>
    have := lower .bitwiseOr rfl (by decide)
    exact here Grammar.agree_inversionRule
  | disjunction =>
    have := lower .inversion rfl (by decide)
    exact here Grammar.agree_disjunctionRule
  | expression =>
    have := lower .disjunction rfl (by decide)
    exact here Grammar.agree_expressionRule
  | starExpression =>
    have := lower .expression rfl (by decide)
    exact here Grammar.agree_starExpressionRule
  | arguments =>
    have := lower .expression rfl (by decide)
    exact here Grammar.agree_argumentsRule
  | targetPrimary =>
    have := lower .text rfl (by decide)
    exact here Grammar.agree_targetPrimaryRule
  | targetAtom =>
    have := lower .targetPrimary rfl (by decide)
    exact here Grammar.agree_targetAtomRule
  | starTarget =>
    have := lower .targetPrimary rfl (by decide)
    have := lower .targetAtom rfl (by decide)
    exact here Grammar.agree_starTargetRule
  | singleTarget =>
    have := lower .targetPrimary rfl (by decide)
    exact here Grammar.agree_singleTargetRule
  | deleteTarget =>
    have := lower .targetPrimary rfl (by decide)
    exact here Grammar.agree_deleteTargetRule
  | pattern =>
    have := lower .text rfl (by decide)
    exact here Grammar.agree_patternRule
  | elifBranch => exact here Grammar.agree_elifRule
  | block =>
    have := lower .targetPrimary rfl (by decide)
    have := lower .starTarget rfl (by decide)
    have := lower .singleTarget rfl (by decide)
    have := lower .starExpression rfl (by decide)
    have quiet : Agrees (besideItself test context (i + 1) (Coherent test context))
        (fun j => Pairing.starts _ false j ∧ Pairing.Quiet _ j) true
        (Grammar.blockRule (Grammar.upTo steps)) (Grammar.blockRule (Grammar.forgetful steps')) :=
      Grammar.agrees_blockRule
    exact quiet.mono fun j _ hj => ⟨hj ▸ Nat.le_refl _, .inr isWhole_besideItself.silent⟩

end

/-- The grammar with memory and the one without agree on every rule, with enough steps. -/
theorem agrees_forgetful {test : String → Bool} (htest : PassesNames test) (bound : Nat) :
    AgreeUpTo test bound := by
  induction bound with
  | zero =>
    intro context _ origin rule i steps steps' _ hbound
    exact absurd hbound (by unfold need; omega)
  | succ bound ih =>
    intro context htested origin rule i steps steps' hread hbound hsteps hsteps'
    have hpos : 0 < need context.source.tokens rule i := Nat.succ_pos _
    obtain ⟨steps, rfl⟩ : ∃ n, steps = n + 1 := ⟨steps - 1, by omega⟩
    refine rulesAgree_remembering (fun steps' hsteps' => ?_) steps' hsteps'
    obtain ⟨steps', rfl⟩ : ∃ n, steps' = n + 1 := ⟨steps' - 1, by omega⟩
    exact (rulesAgree_ofRule htest ih htested hread hbound hsteps hsteps').move origin

/-! ## Whole programs -/

section

variable {p : Pairing} [hp : p.Fair]

/-- The end of the tokens is taken on both sides or on none, when both sides are whole. -/
lemma agrees_take_finish (hwhole : p.IsWhole) :
    Agrees p (p.starts true) true (Reader.take .finish) (Reader.take .finish) := by
  refine Agrees.peek_bind_at ?_ ?_
  · intro i token other hi hlt htoken hother h
    by_cases hkind : token.kind = .finish
    · rw [if_pos hkind, if_pos (h.kind ▸ hkind)]
      rintro _ g g' rfl _ hg
      refine ⟨hg, ⟨h, _, hlt, Pairing.starts_false hi, htoken, hother⟩, by omega, by omega,
        by omega, hlt, ?_⟩
      rw [Pairing.level_succ htoken, hkind]
    · rw [if_neg hkind, if_neg (h.kind ▸ hkind)]
      exact .nothing
  · intro token other _ htoken
    exact absurd (hwhole.left.symm.trans htoken) (Option.some_ne_none token).symm

/-- Programs agree when both sides are whole. -/
lemma agrees_program {sub sub' : Grammar} [Ready p sub sub'] (hwhole : p.IsWhole) :
    Agrees p (p.starts true) true (Grammar.program sub) (Grammar.program sub') := by
  have calm : Agrees p (fun i => p.starts true i ∧ p.Calm i) true (Grammar.statements sub)
      (Grammar.statements sub') := Grammar.agrees_statements
  have statements : Agrees p (p.starts true) false (Reader.optional (Grammar.statements sub))
      (Reader.optional (Grammar.statements sub')) :=
    (calm.mono fun _ _ hi => ⟨hi, .inr hwhole.silent⟩).optional
  have rest (found found' : Option (List Stmt)) (h : Compared.alike p found found') :
      Agrees p (p.starts true) true (do discard (take .finish); return found.getD [])
        (do discard (take .finish); return found'.getD []) := by
    have : Similar p found found' := ⟨h⟩
    refine Agrees.bind (t := false) (agrees_take_finish hwhole).discard (fun _ _ _ => .pure ?_)
      fun _ _ hi hij _ _ _ => Pairing.starts_of_le hi hij
    exact Similar.alike
  have program : Agrees p (p.starts true) (false || true) (Grammar.program sub)
      (Grammar.program sub') :=
    statements.bind (b := p.starts true) rest fun _ _ hi hij _ _ _ => Pairing.starts_of_le hi hij
  exact program

end

section

variable {test : String → Bool}

/-- Statements that look alike to a pairing of a text with itself are the same on the left as what a
test lets through on the right. -/
lemma eq_map_of_forall₂ {context : Context} {keeps : Array (List Finding) → Prop}
    {left right : List Stmt} (h : Compared.alike (besideItself test context 0 keeps) left right) :
    left = right.map (Stmt.seen (.through test)) := by
  have hall : List.Forall₂ (fun a b : Stmt => a.seen .plain = b.seen (.through test)) left right := h
  clear h
  simp only [Stmt.seen_plain] at hall
  induction hall with
  | nil => rfl
  | cons hfirst _ ih => rw [List.map_cons, ← hfirst, ← ih]

/-- Statements are read on the left as what a test lets through on the right. -/
lemma readAll_eq_ok_iff_through {keeps : Array (List Finding) → Prop} {source : TokenSequence}
    {s inField : Bool} {r r' : Reader (List Stmt)}
    (hkeeps : keeps (noProgress 0 source.tokens.size).findings)
    (h : Agrees (besideItself test ⟨source, false, inField⟩ 0 keeps)
      (Pairing.starts (besideItself test ⟨source, false, inField⟩ 0 keeps) true) s r r')
    (statements : List Stmt) :
    readAll r source inField = .ok statements ↔ ∃ found, readAll r' source inField = .ok found ∧
      statements = found.map (Stmt.seen (.through test)) := by
  have hagree := resultsAgree_of_agrees rfl rfl rfl rfl hkeeps h
  revert hagree
  generalize readAll r source inField = result
  generalize readAll r' source inField = result'
  intro hagree
  cases result with
  | error fault =>
    cases result' with
    | error fault' => simp
    | ok found => exact hagree.elim
  | ok value =>
    cases result' with
    | error fault' => exact hagree.elim
    | ok found => simp [eq_map_of_forall₂ hagree, eq_comm]

/-- A text is read as the grammar without memory reads it, seen through a test that names pass. -/
lemma read_eq_ok_iff_through (htest : PassesNames test) {text : List Char} {steps : Nat}
    (hsteps : Grammar.stepsFor text ≤ steps) (statements : List Stmt) :
    read text = .ok statements ↔ ∃ found,
      readAll (Grammar.program (Grammar.forgetful steps)) (.ofText text) false = .ok found ∧
        statements = found.map (Stmt.seen (.through test)) := by
  let context : Context := ⟨.ofText text, false, false⟩
  let p := besideItself test context 0 (Coherent test context)
  have htested : Tested test context := tested_ofText htest text false
  have hfair : p.Fair := fair_besideItself htested
  have hweight : weightFrom context.source.tokens 0 ≤ 2 * text.length + 3 := weigh_ofLines 1 text
  have hlimit : 16 * weightFrom context.source.tokens 0 + 9 ≤ Grammar.stepsFor text := by
    unfold Grammar.stepsFor
    omega
  have ready : Ready p (Grammar.upTo (Grammar.stepsFor text)) (Grammar.forgetful steps) := by
    refine ready_of_agreeUpTo htest (agrees_forgetful htest _) htested (fun rule j _ _ => ?_)
      (fun j _ => ?_) (Nat.le_refl _) hlimit (Nat.le_trans hlimit hsteps)
    · have := weightFrom_le context.source.tokens (Nat.zero_le j)
      have := rank_le rule
      unfold need
      omega
    · have := weightFrom_le context.source.tokens (Nat.zero_le j)
      omega
  have program : Agrees p (p.starts true) true
      (Grammar.program (Grammar.upTo (Grammar.stepsFor text)))
      (Grammar.program (Grammar.forgetful steps)) := agrees_program isWhole_besideItself
  exact readAll_eq_ok_iff_through coherent_noProgress program statements

/-- **A text is read as the grammar without memory reads it**, with as many steps as one likes. -/
theorem read_eq_ok_iff {text : List Char} {steps : Nat} (hsteps : Grammar.stepsFor text ≤ steps)
    (statements : List Stmt) : read text = .ok statements ↔
      readAll (Grammar.program (Grammar.forgetful steps)) (.ofText text) false = .ok statements := by
  -- a test that lets everything through changes nothing
  have hplain (found : List Stmt) : found.map (Stmt.seen (.through fun _ => true)) = found := by
    have hview : View.through (fun _ => true) = .plain := rfl
    rw [hview, List.map_congr_left fun statement _ => statement.seen_plain, List.map_id']
  rw [read_eq_ok_iff_through (show PassesNames fun _ => true from fun _ _ => rfl) hsteps]
  constructor
  · rintro ⟨found, hfound, rfl⟩
    rw [hfound, hplain]
  · exact fun hfound => ⟨statements, hfound, (hplain statements).symm⟩

/-- **The variables of a program are names**: they all pass a test that names pass. -/
theorem seen_through_of_read (htest : PassesNames test) {text : List Char} {statements : List Stmt}
    (h : read text = .ok statements) : statements.map (Stmt.seen (.through test)) = statements := by
  have hsteps := Nat.le_refl (Grammar.stepsFor text)
  obtain ⟨found, hfound, heq⟩ := (read_eq_ok_iff_through htest hsteps statements).mp h
  have hread := (read_eq_ok_iff hsteps statements).mp h
  obtain rfl : statements = found := Except.ok.inj (hread.symm.trans hfound)
  exact heq.symm

end

end AdjointSynthesis.Code

import AdjointSynthesis.Proofs.Reading.Functions
import AdjointSynthesis.Proofs.Scanning.Words

/-!
# Texts and the words they are written for

A text that is put together like an expression or a statement is scanned into words that spell it.

* `Writes`: scanning finds some words wherever the text stands within a line.
* `OperandText`, `ExpressionText`, `ConditionText`, `ValueText`, `TargetText`, `StatementText`: a
  text whose words spell a tree in every settled grammar.
* `BracketsText`: a text of values in brackets, from which calls and tuples are made.
-/

namespace AdjointSynthesis.Code

open Grammar

/-- A text is written for some words if scanning finds them wherever the text stands within a line
and a character follows that ends a word.  The text holds brackets within brackets at most some
levels deep. -/
def Writes (levels : Nat) (text : List Char) (words : List Word) : Prop :=
  ∀ (indents : List Indentation) (depth : Nat) (rest : List Char), EndsWord rest →
    depth + levels ≤ maxBrackets →
      Leads ⟨.inLine false, indents, depth, text ++ rest⟩ words
        ⟨.inLine false, indents, depth, rest⟩

section
variable {levels : Nat} {text : List Char} {words : List Word}

lemma Writes.mono (h : Writes levels text words) {more : Nat} (hle : levels ≤ more) :
    Writes more text words :=
  fun indents depth rest hrest hdepth => h indents depth rest hrest (by omega)

lemma writes_name {written : List Char} (hword : Text.isIdentifier written = true)
    (hname : wordKind written = .name) : Writes 0 written [nameWord written] := by
  intro indents depth rest hrest _
  have leads : Leads ⟨.inLine false, indents, depth, written ++ rest⟩ _ _ :=
    leads_identifier hword hrest
  rwa [hname, if_pos rfl] at leads

/-- Reserved words are words, and are read as what they are. -/
lemma wordKind_of_mem_spellings : ∀ entry ∈ Keyword.spellings,
    (Text.isIdentifier entry.1 && decide (wordKind entry.1 = .keyword entry.2)) = true :=
  List.all_eq_true.mp (by decide +kernel)

lemma writes_keyword {written : List Char} {keyword : Keyword}
    (h : (written, keyword) ∈ Keyword.spellings) (levels : ℕ) :
    Writes levels written [(Token.Kind.keyword keyword).word] := by
  intro indents depth rest hrest _
  have hword := wordKind_of_mem_spellings _ h
  rw [Bool.and_eq_true, decide_eq_true_eq] at hword
  have leads : Leads ⟨.inLine false, indents, depth, written ++ rest⟩ _ _ :=
    leads_identifier hword.1 hrest
  rwa [hword.2, if_neg (by nofun)] at leads

lemma writes_zero : Writes 0 "0.0".toList [numberWord "0.0".toList] := by
  intro indents depth rest hrest _
  have hlexeme (line : Nat) :
      lexeme line ('0' :: ('.' :: '0' :: [] ++ rest)) = .ok (.number, rest) := by
    obtain ⟨c, more, rfl, hc⟩ := hrest
    simp only [List.mem_cons, List.not_mem_nil, or_false] at hc
    rcases hc with rfl | rfl | rfl | rfl | rfl | rfl | rfl | rfl <;> rfl
  exact leads_word (by decide) hlexeme rfl

/-! ## Lists -/

/-- The comma behind the last value, or none. -/
def trailingText (trailing : Bool) : List Char := if trailing then [','] else []

/-- Texts of more values, each behind a comma. -/
def behindCommasText (texts : List (List Char)) : List Char :=
  texts.flatMap fun text => ',' :: ' ' :: text

/-- Texts of values in brackets with commas between them. -/
def bracketedText (first : List Char) (rest : List (List Char)) (trailing : Bool) : List Char :=
  '(' :: (first ++ (behindCommasText rest ++ (trailingText trailing ++ [')'])))

/-- What follows a value in a list ends its last word. -/
lemma endsWord_behindCommas {texts : List (List Char)} {rest : List Char} (h : EndsWord rest) :
    EndsWord (behindCommasText texts ++ rest) := by
  cases texts with
  | nil => exact h
  | cons text texts => exact endsWord_cons (by decide)

lemma writes_behindCommas {items : List (List Char × List Word)}
    (h : ∀ item ∈ items, Writes levels item.1 item.2) :
    Writes levels (behindCommasText (items.map Prod.fst)) (behindCommas (items.map Prod.snd)) := by
  intro indents depth rest hrest hdepth
  induction items with
  | nil => exact .refl _
  | cons item items ih =>
    have hitem := h item List.mem_cons_self indents depth
      (behindCommasText (items.map Prod.fst) ++ rest) (endsWord_behindCommas hrest) hdepth
    have hmore := ih fun item hitem => h item (List.mem_cons_of_mem _ hitem)
    have leads := leads_comma.trans (leads_blank.trans (hitem.trans hmore))
    simpa [behindCommasText, behindCommas] using leads

/-- Values in brackets. -/
lemma writes_bracketed (first : List Char × List Word) (rest : List (List Char × List Word))
    (trailing : Bool) (hfirst : Writes levels first.1 first.2)
    (hrest : ∀ item ∈ rest, Writes levels item.1 item.2) :
    Writes (levels + 1) (bracketedText first.1 (rest.map Prod.fst) trailing)
      (bracketed first.2 (rest.map Prod.snd) trailing) := by
  intro indents depth behind hbehind hdepth
  have hclose : EndsWord (trailingText trailing ++ ')' :: behind) := by
    cases trailing
    · exact endsWord_cons (by decide)
    · exact endsWord_cons (by decide)
  have items := (hfirst indents (depth + 1) _ (endsWord_behindCommas hclose) (by omega)).trans
    (writes_behindCommas hrest indents (depth + 1) _ hclose (by omega))
  have close : Leads ⟨.inLine false, indents, depth + 1, trailingText trailing ++ ')' :: behind⟩
      (trailingComma trailing ++ [(Token.Kind.mark .closeParen).word])
      ⟨.inLine false, indents, depth, behind⟩ := by
    cases trailing
    · exact leads_closeParen
    · exact leads_comma.trans leads_closeParen
  have leads := (leads_openParen (by omega)).trans (items.trans close)
  simpa [bracketedText, bracketed, listed] using leads

/-! ## Texts one behind the other -/

/-- Two texts, the second of which begins with a character that ends a word. -/
lemma Writes.append {text' : List Char} {words' : List Word} (h : Writes levels text words)
    (h' : Writes levels text' words')
    (hends : ∀ rest, EndsWord rest → EndsWord (text' ++ rest)) :
    Writes levels (text ++ text') (words ++ words') := by
  intro indents depth rest hrest hdepth
  rw [List.append_assoc]
  exact (h indents depth _ (hends rest hrest) hdepth).trans (h' indents depth rest hrest hdepth)

/-- Two texts with a blank between them. -/
lemma Writes.spaced {text' : List Char} {words' : List Word} (h : Writes levels text words)
    (h' : Writes levels text' words') :
    Writes levels (text ++ ' ' :: text') (words ++ words') := by
  intro indents depth rest hrest hdepth
  rw [List.append_assoc]
  exact (h indents depth _ (endsWord_cons (by decide)) hdepth).trans
    (leads_blank.trans (h' indents depth rest hrest hdepth))

end

/-! ## Texts of operands and expressions -/

/-- A text is written for an operand. -/
def OperandText (levels : Nat) (text : List Char) (e : Expr) : Prop :=
  ∃ words, Writes levels text words ∧
    ∀ (sub : Grammar) (c : Context) [sub.Settled c] [c.IsPlain], SpellsOperand sub c words e

/-- A text is written for an expression. -/
def ExpressionText (levels : Nat) (text : List Char) (e : Expr) : Prop :=
  ∃ words, Writes levels text words ∧
    ∀ (sub : Grammar) (c : Context) [sub.Settled c] [c.IsPlain], SpellsExpression sub c words e

/-- A text is written for a condition. -/
def ConditionText (levels : Nat) (text : List Char) (e : Expr) : Prop :=
  ∃ words, Writes levels text words ∧ ∀ (sub : Grammar) (c : Context) [sub.Settled c] [c.IsPlain],
    Spells (sub .disjunction) c Token.Kind.testStops words e

/-- An identifier that is no reserved word. -/
structure IsUnreserved (written : List Char) : Prop where
  isIdentifier : Text.isIdentifier written = true
  wordKind_eq : wordKind written = .name

section
variable {levels : Nat} {text text' : List Char} {e e' : Expr}

lemma OperandText.expression (h : OperandText levels text e) : ExpressionText levels text e := by
  obtain ⟨words, hwrites, hspells⟩ := h
  exact ⟨words, hwrites, fun sub c => (hspells sub c).expression⟩

lemma IsUnreserved.operand {written : List Char} (h : IsUnreserved written) (levels : Nat) :
    OperandText levels written (nameTree written) :=
  ⟨[nameWord written], (writes_name h.isIdentifier h.wordKind_eq).mono (Nat.zero_le _),
    fun _ _ => spellsOperand_name written⟩

lemma operandText_absent (levels : Nat) : OperandText levels "None".toList absentTree :=
  ⟨[(Token.Kind.keyword .none_).word],
    writes_keyword (by decide) levels,
    fun _ _ => spellsOperand_absent⟩

lemma operandText_zero (levels : Nat) : OperandText levels "0.0".toList (numberTree "0.0".toList) :=
  ⟨[numberWord "0.0".toList], writes_zero.mono (Nat.zero_le _),
    fun _ _ => spellsOperand_number (by decide)⟩

/-- Each of several texts is written for some words. -/
lemma exists_words {items : List (List Char × Expr)}
    (h : ∀ item ∈ items, ExpressionText levels item.1 item.2) :
    ∃ words : List Char × Expr → List Word, ∀ item ∈ items, Writes levels item.1 (words item) ∧
      ∀ (sub : Grammar) (c : Context) [sub.Settled c] [c.IsPlain],
        SpellsExpression sub c (words item) item.2 := by
  have hall : ∀ item : List Char × Expr, ∃ words, item ∈ items → Writes levels item.1 words ∧
      ∀ (sub : Grammar) (c : Context) [sub.Settled c] [c.IsPlain],
        SpellsExpression sub c words item.2 := by
    intro item
    by_cases hitem : item ∈ items
    · obtain ⟨words, hwords⟩ := h item hitem
      exact ⟨words, fun _ => hwords⟩
    · exact ⟨[], fun hmem => absurd hmem hitem⟩
  choose words hwords using hall
  exact ⟨words, hwords⟩

/-- A text is written for values in brackets. -/
def BracketsText (levels : Nat) (text : List Char) (first : Expr) (rest : List Expr)
    (trailing : Bool) : Prop :=
  (∀ behind, EndsWord (text ++ behind)) ∧
    ∃ (head : List Word) (tail : List (List Word × Expr)), tail.map Prod.snd = rest ∧
      Writes levels text (bracketed head (tail.map Prod.fst) trailing) ∧
      ∀ (sub : Grammar) (c : Context) [sub.Settled c] [c.IsPlain],
        SpellsExpression sub c (head, first).1 (head, first).2 ∧
          ∀ item ∈ tail, SpellsExpression sub c item.1 item.2

/-- Values in brackets on one line. -/
lemma bracketsText (first : List Char × Expr) (rest : List (List Char × Expr)) (trailing : Bool)
    (hfirst : ExpressionText levels first.1 first.2)
    (hrest : ∀ item ∈ rest, ExpressionText levels item.1 item.2) :
    BracketsText (levels + 1) (bracketedText first.1 (rest.map Prod.fst) trailing) first.2
      (rest.map Prod.snd) trailing := by
  obtain ⟨head, hhead, hspells⟩ := hfirst
  obtain ⟨words, hwords⟩ := exists_words hrest
  have hwrites := writes_bracketed (first.1, head) (rest.map fun item => (item.1, words item))
    trailing hhead (fun item hitem => by
      obtain ⟨original, hmem, rfl⟩ := List.mem_map.mp hitem
      exact (hwords original hmem).1)
  rw [List.map_map, List.map_map] at hwrites
  refine ⟨fun behind => endsWord_cons (by decide), head, rest.map fun item => (words item, item.2),
    ?_, ?_, fun sub c _ _ => ⟨hspells sub c, ?_⟩⟩
  · rw [List.map_map]
    rfl
  · rw [List.map_map]
    exact hwrites
  · intro item hitem
    obtain ⟨original, hmem, rfl⟩ := List.mem_map.mp hitem
    exact (hwords original hmem).2 sub c

namespace BracketsText

variable {first : Expr} {rest : List Expr} {trailing : Bool}

lemma operand (h : BracketsText levels text first rest trailing) :
    OperandText levels text (bracketedTree first rest trailing) := by
  obtain ⟨-, head, tail, rfl, hwrites, hspells⟩ := h
  refine ⟨_, hwrites, fun sub c _ _ => ?_⟩
  have hspelled := hspells sub c
  exact spellsOperand_bracketed hspelled.1 hspelled.2 trailing

/-- A call of a name: its words, and what they spell. -/
lemma exists_callWords (h : BracketsText levels text first rest trailing) {function : List Char}
    (hfunction : IsUnreserved function) :
    ∃ words, Writes levels (function ++ text) words ∧
      ∀ (sub : Grammar) (c : Context) [sub.Settled c] [c.IsPlain],
        SpellsOperand sub c words (callTree (nameTree function) (first :: rest)) ∧
        SpellsValue sub c words (callTree (nameTree function) (first :: rest)) ∧
        SpellsStatement sub c words
          (expressionTree (callTree (nameTree function) (first :: rest))) := by
  obtain ⟨hends, head, tail, rfl, hwrites, hspells⟩ := h
  have hname := (writes_name hfunction.isIdentifier hfunction.wordKind_eq).mono (Nat.zero_le levels)
  refine ⟨_, hname.append hwrites fun rest _ => hends rest, fun sub c _ _ => ?_⟩
  have hspelled := hspells sub c
  exact ⟨spellsOperand_call function hspelled.1 hspelled.2 trailing,
    spellsValue_call function hspelled.1 hspelled.2 trailing,
    spellsStatement_call function hspelled.1 hspelled.2 trailing⟩

lemma call (h : BracketsText levels text first rest trailing) {function : List Char}
    (hfunction : IsUnreserved function) :
    OperandText levels (function ++ text) (callTree (nameTree function) (first :: rest)) := by
  obtain ⟨words, hwrites, hspells⟩ := h.exists_callWords hfunction
  exact ⟨words, hwrites, fun sub c => (hspells sub c).1⟩

end BracketsText

/-! ## Conditions -/

lemma OperandText.condition (h : OperandText levels text e) : ConditionText levels text e := by
  obtain ⟨words, hwrites, hspells⟩ := h
  exact ⟨words, hwrites, fun sub c => (hspells sub c).disjunction⟩

/-- The text of a comparison that says that two things are the same. -/
def sameText (left right : List Char) : List Char :=
  left ++ ' ' :: ("is".toList ++ ' ' :: right)

lemma conditionText_same (hleft : OperandText levels text e)
    (hright : OperandText levels text' e') :
    ConditionText levels (sameText text text') (sameTree e e') := by
  obtain ⟨words, hwrites, hspells⟩ := hleft
  obtain ⟨words', hwrites', hspells'⟩ := hright
  have his : Writes levels "is".toList [(Token.Kind.keyword .is_).word] :=
    writes_keyword (by decide) levels
  exact ⟨_, hwrites.spaced (his.spaced hwrites'),
    fun sub c => spells_same (hspells sub c) (hspells' sub c)⟩

/-! ## Values and targets -/

/-- A text is written for a value that no target begins with. -/
def ValueText (levels : Nat) (text : List Char) (e : Expr) : Prop :=
  ∃ words, Writes levels text words ∧
    ∀ (sub : Grammar) (c : Context) [sub.Settled c] [c.IsPlain], SpellsValue sub c words e

/-- A text is written for a target that takes no annotation. -/
def TargetText (levels : Nat) (text : List Char) (e : Expr) : Prop :=
  ∃ words, Writes levels text words ∧
    ∀ (sub : Grammar) (c : Context) [sub.Settled c] [c.IsPlain], SpellsTarget sub c words e

/-- A text is written for a statement on a line of its own. -/
def StatementText (levels : Nat) (text : List Char) (s : Stmt) : Prop :=
  ∃ words, Writes levels text words ∧
    ∀ (sub : Grammar) (c : Context) [sub.Settled c] [c.IsPlain], SpellsStatement sub c words s

lemma TargetText.mono (h : TargetText levels text e) {more : Nat} (hle : levels ≤ more) :
    TargetText more text e := by
  obtain ⟨words, hwrites, hspells⟩ := h
  exact ⟨words, hwrites.mono hle, hspells⟩

lemma StatementText.mono {s : Stmt} (h : StatementText levels text s) {more : Nat}
    (hle : levels ≤ more) : StatementText more text s := by
  obtain ⟨words, hwrites, hspells⟩ := h
  exact ⟨words, hwrites.mono hle, hspells⟩

lemma IsUnreserved.value {written : List Char} (h : IsUnreserved written) (levels : Nat) :
    ValueText levels written (nameTree written) :=
  ⟨[nameWord written], (writes_name h.isIdentifier h.wordKind_eq).mono (Nat.zero_le _),
    fun _ _ => spellsValue_name written⟩

lemma IsUnreserved.target {written : List Char} (h : IsUnreserved written) (levels : Nat) :
    TargetText levels written (nameTree written) :=
  ⟨[nameWord written], (writes_name h.isIdentifier h.wordKind_eq).mono (Nat.zero_le _),
    fun _ _ => spellsTarget_name written⟩

/-- The text of a conditional expression. -/
def conditionalText (yes condition no : List Char) : List Char :=
  yes ++ ' ' :: ("if".toList ++ ' ' :: (condition ++ ' ' :: ("else".toList ++ ' ' :: no)))

lemma writes_attribute {value part : List Char} (hvalue : IsUnreserved value)
    (hpart : IsUnreserved part) (hhead : ∀ c ∈ part.head?, c ≠ '.' ∧ c.isDigit = false) :
    Writes 0 (value ++ '.' :: part)
      [nameWord value, (Token.Kind.mark .dot).word, nameWord part] := by
  intro indents depth rest hrest hdepth
  have name := writes_name hvalue.isIdentifier hvalue.wordKind_eq indents depth
    ('.' :: (part ++ rest)) (endsWord_cons (by decide)) hdepth
  have last := writes_name hpart.isIdentifier hpart.wordKind_eq indents depth rest hrest hdepth
  obtain ⟨c, tail, rfl⟩ := List.exists_cons_of_ne_nil
    (isWord_iff.mp (isWord_of_isIdentifier hpart.isIdentifier)).1
  have dot : Leads ⟨.inLine false, indents, depth, '.' :: (c :: tail ++ rest)⟩ _ _ :=
    leads_dot (hhead c rfl).1 (hhead c rfl).2
  rw [List.append_assoc]
  exact name.trans (dot.trans last)

lemma valueText_conditional {value part condition no : List Char} {test otherwise : Expr}
    (hvalue : IsUnreserved value) (hpart : IsUnreserved part)
    (hhead : ∀ c ∈ part.head?, c ≠ '.' ∧ c.isDigit = false)
    {first : Expr} {rest : List Expr} {trailing : Bool}
    (hbrackets : BracketsText levels text first rest trailing)
    (hcondition : ConditionText levels condition test) (hno : ExpressionText levels no otherwise) :
    ValueText levels (conditionalText (value ++ '.' :: part ++ text) condition no)
      (conditionalTree test (callTree (attributeTree (nameTree value) part) (first :: rest))
        otherwise) := by
  obtain ⟨hends, head, tail, rfl, hwrites, hspells⟩ := hbrackets
  obtain ⟨conditionWords, hwritesCondition, hspellsCondition⟩ := hcondition
  obtain ⟨noWords, hwritesNo, hspellsNo⟩ := hno
  have hif : Writes levels "if".toList [(Token.Kind.keyword .if_).word] :=
    writes_keyword (by decide) levels
  have helse : Writes levels "else".toList [(Token.Kind.keyword .else_).word] :=
    writes_keyword (by decide) levels
  have call := ((writes_attribute hvalue hpart hhead).mono (Nat.zero_le levels)).append hwrites
    fun rest _ => hends rest
  refine ⟨_, call.spaced (hif.spaced (hwritesCondition.spaced (helse.spaced hwritesNo))),
    fun sub c _ _ => ?_⟩
  have hspelled := hspells sub c
  exact spellsValue_conditional value part hspelled.1 hspelled.2 (hspellsCondition sub c)
    (hspellsNo sub c)

lemma BracketsText.callValue {first : Expr} {rest : List Expr} {trailing : Bool}
    (h : BracketsText levels text first rest trailing) {function : List Char}
    (hfunction : IsUnreserved function) :
    ValueText levels (function ++ text) (callTree (nameTree function) (first :: rest)) := by
  obtain ⟨words, hwrites, hspells⟩ := h.exists_callWords hfunction
  exact ⟨words, hwrites, fun sub c => (hspells sub c).2.1⟩

/-- The text of a tuple; a single value has a comma behind it. -/
def tupleOf (first : List Char) (rest : List (List Char)) : List Char :=
  bracketedText first rest rest.isEmpty

lemma operandText_tuple (first : List Char × Expr) (rest : List (List Char × Expr))
    (hfirst : ExpressionText levels first.1 first.2)
    (hrest : ∀ item ∈ rest, ExpressionText levels item.1 item.2) :
    OperandText (levels + 1) (tupleOf first.1 (rest.map Prod.fst))
      (tupleTree (first.2 :: rest.map Prod.snd)) := by
  have h := (bracketsText first rest (rest.map Prod.fst).isEmpty hfirst hrest).operand
  have hnot : ¬(rest.map Prod.snd = [] ∧ (rest.map Prod.fst).isEmpty = false) := by
    rintro ⟨hnil, hfalse⟩
    rw [List.map_eq_nil_iff.mp hnil] at hfalse
    cases hfalse
  rwa [bracketedTree, if_neg hnot] at h

lemma targetText_names {first : List Char} {rest : List (List Char)} (hfirst : IsUnreserved first)
    (hrest : ∀ written ∈ rest, IsUnreserved written) :
    TargetText 1 (tupleOf first rest) (nameTupleTree first rest) := by
  have hname {written : List Char} (h : IsUnreserved written) :
      Writes 0 written [nameWord written] :=
    writes_name h.isIdentifier h.wordKind_eq
  have hwrites := writes_bracketed (first, [nameWord first])
    (rest.map fun written => (written, [nameWord written])) rest.isEmpty (hname hfirst)
    (fun item hitem => by
      obtain ⟨written, hmem, rfl⟩ := List.mem_map.mp hitem
      exact hname (hrest written hmem))
  have htexts : rest.map (Prod.fst ∘ fun written => (written, [nameWord written])) = rest :=
    List.map_id rest
  rw [List.map_map, List.map_map, htexts] at hwrites
  refine ⟨nameTupleWords first rest, ?_, fun sub c => spellsTarget_nameTuple first rest⟩
  rw [nameTupleWords, tupleWords, List.isEmpty_map, List.isEmpty_map, List.map_map]
  exact hwrites

/-! ## Statements -/

/-- The text of an assignment. -/
def assignText (left right : List Char) : List Char := left ++ ' ' :: '=' :: ' ' :: right

lemma statementText_assign (htarget : TargetText levels text e)
    (hvalue : ValueText levels text' e') :
    StatementText levels (assignText text text') (assignTree e e') := by
  obtain ⟨words, hwrites, hspells⟩ := htarget
  obtain ⟨words', hwrites', hspells'⟩ := hvalue
  refine ⟨assignWords words words', ?_,
    fun sub c => spellsStatement_assign (hspells sub c) (hspells' sub c)⟩
  intro indents depth rest hrest hdepth
  rw [assignText, List.append_assoc]
  exact (hwrites indents depth _ (endsWord_cons (by decide)) hdepth).trans (leads_blank.trans
    (leads_assign.trans (leads_blank.trans (hwrites' indents depth rest hrest hdepth))))

/-- The text of a return. -/
def returnText (value : List Char) : List Char := "return".toList ++ ' ' :: value

-- as functions the two sides agree without a look at the characters of the word
lemma returnText_eq (value : List Char) : returnText value = "return".toList ++ ' ' :: value :=
  congrFun (rfl : returnText = fun value => "return".toList ++ ' ' :: value) value

lemma statementText_return (h : ExpressionText levels text e) :
    StatementText levels (returnText text) (returnTree e) := by
  obtain ⟨words, hwrites, hspells⟩ := h
  have hreturn : Writes levels "return".toList [(Token.Kind.keyword .return_).word] :=
    writes_keyword (by decide) levels
  exact ⟨_, hreturn.spaced hwrites,
    fun sub c => spellsStatement_return (hspells sub c).starExpressions⟩

/-- The text of a return of two values. -/
def returnPairText (left right : List Char) : List Char := returnText (left ++ ',' :: ' ' :: right)

lemma statementText_returnPair (hleft : ExpressionText levels text e)
    (hright : ExpressionText levels text' e') :
    StatementText levels (returnPairText text text') (returnTree (tupleTree [e, e'])) := by
  obtain ⟨words, hwrites, hspells⟩ := hleft
  obtain ⟨words', hwrites', hspells'⟩ := hright
  have hreturn : Writes levels "return".toList [(Token.Kind.keyword .return_).word] :=
    writes_keyword (by decide) levels
  have pair : Writes levels (text ++ ',' :: ' ' :: text')
      (words ++ (Token.Kind.mark .comma).word :: words') := by
    intro indents depth rest hrest hdepth
    rw [List.append_assoc]
    exact (hwrites indents depth _ (endsWord_cons (by decide)) hdepth).trans (leads_comma.trans
      (leads_blank.trans (hwrites' indents depth rest hrest hdepth)))
  exact ⟨_, hreturn.spaced pair,
    fun sub c => spellsStatement_return (spells_pair (hspells sub c) (hspells' sub c))⟩

lemma BracketsText.callStatement {first : Expr} {rest : List Expr} {trailing : Bool}
    (h : BracketsText levels text first rest trailing) {function : List Char}
    (hfunction : IsUnreserved function) :
    StatementText levels (function ++ text)
      (expressionTree (callTree (nameTree function) (first :: rest))) := by
  obtain ⟨words, hwrites, hspells⟩ := h.exists_callWords hfunction
  exact ⟨words, hwrites, fun sub c => (hspells sub c).2.2⟩

end

end AdjointSynthesis.Code

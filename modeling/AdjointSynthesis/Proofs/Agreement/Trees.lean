import AdjointSynthesis.Proofs.Agreement.Instances

/-!
# Trees that are alike

A tree is like another when its parts are like those of the other.  There is one instance for each
way in which the grammar puts a tree together.
-/

namespace AdjointSynthesis.Code

variable {p : Pairing}

/-! ## Lists in views -/

/-- Lists whose items look the same in two views look the same themselves. -/
lemma map_eq_map_of_forall₂ {α β : Type} {f g : α → β} {l l' : List α}
    (h : List.Forall₂ (fun a b => f a = g b) l l') : l.map f = l'.map g := by
  induction h with
  | nil => rfl
  | cons h _ ih => rw [List.map_cons, List.map_cons, h, ih]

lemma map_eq_map_of_rel {α β : Type} {f g : α → β} {o o' : Option α}
    (h : Option.Rel (fun a b => f a = g b) o o') : o.map f = o'.map g := by
  cases h with
  | some h => rw [Option.map_some, Option.map_some, h]
  | none => rfl

section

variable {l l' : List Expr} {o o' : Option Expr}

lemma Similar.seenIn [h : Similar p l l'] : seenIn p.leftView l = seenIn p.rightView l' := by
  simpa using map_eq_map_of_forall₂ h.alike

lemma Similar.seenInSome [h : Similar p o o'] :
    seenInSome p.leftView o = seenInSome p.rightView o' := by
  simpa using map_eq_map_of_rel h.alike

lemma Similar.seenInAny {l l' : List (Option Expr)} [h : Similar p l l'] :
    seenInAny p.leftView l = seenInAny p.rightView l' := by
  simpa using map_eq_map_of_forall₂ (h.alike.imp fun _ _ h => map_eq_map_of_rel h)

lemma Similar.seenInItems {l l' : List DictItem} [h : Similar p l l'] :
    seenInItems p.leftView l = seenInItems p.rightView l' := by
  simpa using map_eq_map_of_forall₂ h.alike

lemma Similar.seenInKeywords {l l' : List KeywordArgument} [h : Similar p l l'] :
    seenInKeywords p.leftView l = seenInKeywords p.rightView l' := by
  simpa using map_eq_map_of_forall₂ h.alike

lemma Similar.seenInLinks {l l' : List Link} [h : Similar p l l'] :
    seenInLinks p.leftView l = seenInLinks p.rightView l' := by
  simpa using map_eq_map_of_forall₂ h.alike

lemma Similar.seenInClauses {l l' : List Clause} [h : Similar p l l'] :
    seenInClauses p.leftView l = seenInClauses p.rightView l' := by
  simpa using map_eq_map_of_forall₂ h.alike

lemma Similar.seenInParameters {l l' : List Parameter} [h : Similar p l l'] :
    seenInParameters p.leftView l = seenInParameters p.rightView l' := by
  simpa using map_eq_map_of_forall₂ h.alike

lemma Similar.seenInParameter {o o' : Option Parameter} [h : Similar p o o'] :
    seenInParameter p.leftView o = seenInParameter p.rightView o' := by
  simpa using map_eq_map_of_rel h.alike

lemma Similar.seenInPatterns {l l' : List Pattern} [h : Similar p l l'] :
    seenInPatterns p.leftView l = seenInPatterns p.rightView l' := by
  simpa using map_eq_map_of_forall₂ h.alike

lemma Similar.seenInBody {l l' : List Stmt} [h : Similar p l l'] :
    seenInBody p.leftView l = seenInBody p.rightView l' := by
  simpa using map_eq_map_of_forall₂ h.alike

lemma Similar.seenInHandlers {l l' : List Handler} [h : Similar p l l'] :
    seenInHandlers p.leftView l = seenInHandlers p.rightView l' := by
  simpa using map_eq_map_of_forall₂ h.alike

lemma Similar.seenInCases {l l' : List MatchCase} [h : Similar p l l'] :
    seenInCases p.leftView l = seenInCases p.rightView l' := by
  simpa using map_eq_map_of_forall₂ h.alike

end

/-! ## Expressions -/

section

variable {span span' : Span} {e e' f f' g g' : Expr} {l l' : List Expr} {m m' o o' n n' : Option Expr}

instance similar_expr {form form' : Form} [hs : Similar p span span'] [h : Similar p form form'] :
    Similar p (Expr.mk span form) (.mk span' form') := ⟨congrArg₂ Expr.mk hs.alike h.alike⟩

instance similar_constantForm {value : Constant} :
    Similar p (Form.constant value) (.constant value) := ⟨rfl⟩

instance similar_template [h : Similar p l l'] : Similar p (Form.template l) (.template l') :=
  ⟨congrArg Form.template h.seenIn⟩

instance similar_field {conversion : Option Char} [h : Similar p e e'] [ho : Similar p o o'] :
    Similar p (Form.field e conversion o) (.field e' conversion o') :=
  ⟨congrArg₂ (Form.field · conversion ·) h.alike ho.seenInSome⟩

instance similar_tuple [h : Similar p l l'] : Similar p (Form.tuple l) (.tuple l') :=
  ⟨congrArg Form.tuple h.seenIn⟩

instance similar_list [h : Similar p l l'] : Similar p (Form.list l) (.list l') :=
  ⟨congrArg Form.list h.seenIn⟩

instance similar_set [h : Similar p l l'] : Similar p (Form.set l) (.set l') :=
  ⟨congrArg Form.set h.seenIn⟩

instance similar_dict {l l' : List DictItem} [h : Similar p l l'] :
    Similar p (Form.dict l) (.dict l') := ⟨congrArg Form.dict h.seenInItems⟩

instance similar_subscript [he : Similar p e e'] [hf : Similar p f f'] :
    Similar p (Form.subscript e f) (.subscript e' f') :=
  ⟨congrArg₂ Form.subscript he.alike hf.alike⟩

instance similar_attribute {name name' : String} [he : Similar p e e']
    [hn : Similar p name name'] : Similar p (Form.attribute e name) (.attribute e' name') :=
  ⟨congrArg₂ Form.attribute he.alike hn.alike⟩

instance similar_slice [hm : Similar p m m'] [hn : Similar p n n'] [ho : Similar p o o'] :
    Similar p (Form.slice m n o) (.slice m' n' o') := by
  refine ⟨?_⟩
  show Form.seen _ _ = Form.seen _ _
  rw [Form.seen, Form.seen, hm.seenInSome, hn.seenInSome, ho.seenInSome]

instance similar_starred [he : Similar p e e'] : Similar p (Form.starred e) (.starred e') :=
  ⟨congrArg Form.starred he.alike⟩

instance similar_call {k k' : List KeywordArgument} [he : Similar p e e'] [hl : Similar p l l']
    [hk : Similar p k k'] : Similar p (Form.call e l k) (.call e' l' k') := by
  refine ⟨?_⟩
  show Form.seen _ _ = Form.seen _ _
  rw [Form.seen, Form.seen, he.alike, hl.seenIn, hk.seenInKeywords]

instance similar_unary {operator : UnaryOperator} [he : Similar p e e'] :
    Similar p (Form.unary operator e) (.unary operator e') :=
  ⟨congrArg (Form.unary operator) he.alike⟩

instance similar_binary {operator operator' : BinaryOperator} [ho : Similar p operator operator']
    [he : Similar p e e'] [hf : Similar p f f'] :
    Similar p (Form.binary operator e f) (.binary operator' e' f') := by
  obtain rfl : operator = operator' := ho.alike
  exact ⟨congrArg₂ (Form.binary operator) he.alike hf.alike⟩

instance similar_junction {kind : Junction} [h : Similar p l l'] :
    Similar p (Form.junction kind l) (.junction kind l') :=
  ⟨congrArg (Form.junction kind) h.seenIn⟩

instance similar_comparison {k k' : List Link} [he : Similar p e e'] [hk : Similar p k k'] :
    Similar p (Form.comparison e k) (.comparison e' k') :=
  ⟨congrArg₂ Form.comparison he.alike hk.seenInLinks⟩

instance similar_conditional [he : Similar p e e'] [hf : Similar p f f'] [hg : Similar p g g'] :
    Similar p (Form.conditional e f g) (.conditional e' f' g') := by
  refine ⟨?_⟩
  show Form.seen _ _ = Form.seen _ _
  rw [Form.seen, Form.seen, he.alike, hf.alike, hg.alike]

instance similar_lambda {q q' : Parameters} [hq : Similar p q q'] [he : Similar p e e'] :
    Similar p (Form.lambda q e) (.lambda q' e') := ⟨congrArg₂ Form.lambda hq.alike he.alike⟩

instance similar_assignment [he : Similar p e e'] [hf : Similar p f f'] :
    Similar p (Form.assignment e f) (.assignment e' f') :=
  ⟨congrArg₂ Form.assignment he.alike hf.alike⟩

instance similar_listComprehension {c c' : List Clause} [he : Similar p e e']
    [hc : Similar p c c'] : Similar p (Form.listComprehension e c) (.listComprehension e' c') :=
  ⟨congrArg₂ Form.listComprehension he.alike hc.seenInClauses⟩

instance similar_setComprehension {c c' : List Clause} [he : Similar p e e']
    [hc : Similar p c c'] : Similar p (Form.setComprehension e c) (.setComprehension e' c') :=
  ⟨congrArg₂ Form.setComprehension he.alike hc.seenInClauses⟩

instance similar_dictComprehension {c c' : List Clause} [he : Similar p e e']
    [hf : Similar p f f'] [hc : Similar p c c'] :
    Similar p (Form.dictComprehension e f c) (.dictComprehension e' f' c') := by
  refine ⟨?_⟩
  show Form.seen _ _ = Form.seen _ _
  rw [Form.seen, Form.seen, he.alike, hf.alike, hc.seenInClauses]

instance similar_generator {c c' : List Clause} [he : Similar p e e'] [hc : Similar p c c'] :
    Similar p (Form.generator e c) (.generator e' c') :=
  ⟨congrArg₂ Form.generator he.alike hc.seenInClauses⟩

instance similar_await [he : Similar p e e'] : Similar p (Form.await e) (.await e') :=
  ⟨congrArg Form.await he.alike⟩

instance similar_yield [ho : Similar p o o'] : Similar p (Form.yield o) (.yield o') :=
  ⟨congrArg Form.yield ho.seenInSome⟩

instance similar_yieldFrom [he : Similar p e e'] : Similar p (Form.yieldFrom e) (.yieldFrom e') :=
  ⟨congrArg Form.yieldFrom he.alike⟩

/-! ## Parts of expressions -/

instance similar_dictSpread [he : Similar p e e'] :
    Similar p (DictItem.spread e) (.spread e') := ⟨congrArg DictItem.spread he.alike⟩

instance similar_link {relation : Relation} [he : Similar p e e'] :
    Similar p (Link.mk relation e) (.mk relation e') := ⟨congrArg (Link.mk relation) he.alike⟩

instance similar_clause {isAsync isAsync' : Bool} [ha : Similar p isAsync isAsync']
    [he : Similar p e e'] [hf : Similar p f f'] [hl : Similar p l l'] :
    Similar p (Clause.mk isAsync e f l) (.mk isAsync' e' f' l') := by
  obtain rfl : isAsync = isAsync' := ha.alike
  refine ⟨?_⟩
  show Clause.seen _ _ = Clause.seen _ _
  rw [Clause.seen, Clause.seen, he.alike, hf.alike, hl.seenIn]

instance similar_parameter {name name' : String} [hs : Similar p span span']
    [hn : Similar p name name'] [ho : Similar p o o'] :
    Similar p (Parameter.mk span name o) (.mk span' name' o') := by
  obtain rfl : name = name' := hn.alike
  exact ⟨congrArg₂ (Parameter.mk · name ·) hs.alike ho.seenInSome⟩

instance similar_parameters {a a' b b' k k' : List Parameter} {v v' w w' : Option Parameter}
    {d d' : List (Option Expr)} [ha : Similar p a a'] [hb : Similar p b b'] [hv : Similar p v v']
    [hk : Similar p k k'] [hd : Similar p d d'] [hw : Similar p w w'] [hl : Similar p l l'] :
    Similar p (Parameters.mk a b v k d w l) (.mk a' b' v' k' d' w' l') := by
  refine ⟨?_⟩
  show Parameters.seen _ _ = Parameters.seen _ _
  rw [Parameters.seen, Parameters.seen, ha.seenInParameters, hb.seenInParameters,
    hv.seenInParameter, hk.seenInParameters, hd.seenInAny, hw.seenInParameter, hl.seenIn]

instance similar_noParameters : Similar p Parameters.none .none := ⟨rfl⟩

end

/-! ## Statements -/

/-- Names that may be missing are alike when they are equal. -/
lemma eq_of_similar_names {name name' : Option String} (h : Compared.alike p name name') :
    name = name' := by
  have hrel : Option.Rel (· = ·) name name' := h
  cases hrel with
  | some heq => exact congrArg some heq
  | none => rfl

/-- Lists of values that are alike only when they are equal. -/
lemma eq_of_similar_list {α : Type} {l l' : List α} (h : List.Forall₂ (· = ·) l l') : l = l' :=
  List.forall₂_eq_eq_eq ▸ h

section

variable {span span' : Span} {e e' f f' : Expr} {l l' m m' : List Expr} {o o' n n' : Option Expr}
  {b b' c c' d d' : List Stmt} {k k' : List KeywordArgument} {isAsync isAsync' : Bool}
  {name name' : String}

instance similar_stmt {span span' : Span} {form form' : StmtForm} [hs : Similar p span span']
    [h : Similar p form form'] : Similar p (Stmt.mk span form) (.mk span' form') :=
  ⟨congrArg₂ Stmt.mk hs.alike h.alike⟩

instance similar_function {q q' : Parameters} [ha : Similar p isAsync isAsync']
    [hn : Similar p name name'] [hq : Similar p q q'] [hb : Similar p b b'] [hl : Similar p l l']
    [ho : Similar p o o'] :
    Similar p (StmtForm.function isAsync name q b l o) (.function isAsync' name' q' b' l' o') := by
  obtain rfl : isAsync = isAsync' := ha.alike
  obtain rfl : name = name' := hn.alike
  refine ⟨?_⟩
  show StmtForm.seen _ _ = StmtForm.seen _ _
  rw [StmtForm.seen, StmtForm.seen, hq.alike, hb.seenInBody, hl.seenIn, ho.seenInSome]

instance similar_class [hn : Similar p name name'] [hl : Similar p l l'] [hk : Similar p k k']
    [hb : Similar p b b'] [hm : Similar p m m'] :
    Similar p (StmtForm.classDefinition name l k b m) (.classDefinition name' l' k' b' m') := by
  obtain rfl : name = name' := hn.alike
  refine ⟨?_⟩
  show StmtForm.seen _ _ = StmtForm.seen _ _
  rw [StmtForm.seen, StmtForm.seen, hl.seenIn, hk.seenInKeywords, hb.seenInBody, hm.seenIn]

instance similar_returning [ho : Similar p o o'] :
    Similar p (StmtForm.returning o) (.returning o') := ⟨congrArg StmtForm.returning ho.seenInSome⟩

instance similar_delete [hl : Similar p l l'] : Similar p (StmtForm.delete l) (.delete l') :=
  ⟨congrArg StmtForm.delete hl.seenIn⟩

instance similar_assign [hl : Similar p l l'] [he : Similar p e e'] :
    Similar p (StmtForm.assign l e) (.assign l' e') :=
  ⟨congrArg₂ StmtForm.assign hl.seenIn he.alike⟩

instance similar_augment {operator operator' : BinaryOperator} [he : Similar p e e']
    [ho : Similar p operator operator'] [hf : Similar p f f'] :
    Similar p (StmtForm.augment e operator f) (.augment e' operator' f') := by
  obtain rfl : operator = operator' := ho.alike
  exact ⟨congrArg₂ (StmtForm.augment · operator ·) he.alike hf.alike⟩

instance similar_annotate {simple : Bool} [he : Similar p e e'] [hf : Similar p f f']
    [ho : Similar p o o'] :
    Similar p (StmtForm.annotate e f o simple) (.annotate e' f' o' simple) := by
  refine ⟨?_⟩
  show StmtForm.seen _ _ = StmtForm.seen _ _
  rw [StmtForm.seen, StmtForm.seen, he.alike, hf.alike, ho.seenInSome]

instance similar_forLoop [ha : Similar p isAsync isAsync'] [he : Similar p e e']
    [hf : Similar p f f'] [hb : Similar p b b'] [hc : Similar p c c'] :
    Similar p (StmtForm.forLoop isAsync e f b c) (.forLoop isAsync' e' f' b' c') := by
  obtain rfl : isAsync = isAsync' := ha.alike
  refine ⟨?_⟩
  show StmtForm.seen _ _ = StmtForm.seen _ _
  rw [StmtForm.seen, StmtForm.seen, he.alike, hf.alike, hb.seenInBody, hc.seenInBody]

instance similar_whileLoop [he : Similar p e e'] [hb : Similar p b b'] [hc : Similar p c c'] :
    Similar p (StmtForm.whileLoop e b c) (.whileLoop e' b' c') := by
  refine ⟨?_⟩
  show StmtForm.seen _ _ = StmtForm.seen _ _
  rw [StmtForm.seen, StmtForm.seen, he.alike, hb.seenInBody, hc.seenInBody]

instance similar_branch [he : Similar p e e'] [hb : Similar p b b'] [hc : Similar p c c'] :
    Similar p (StmtForm.branch e b c) (.branch e' b' c') := by
  refine ⟨?_⟩
  show StmtForm.seen _ _ = StmtForm.seen _ _
  rw [StmtForm.seen, StmtForm.seen, he.alike, hb.seenInBody, hc.seenInBody]

instance similar_withBlock {w w' : List Manager} [hw : Similar p w w'] [hb : Similar p b b'] :
    Similar p (StmtForm.withBlock isAsync w b) (.withBlock isAsync w' b') :=
  ⟨congrArg₂ (StmtForm.withBlock isAsync) (map_eq_map_of_forall₂ hw.alike) hb.seenInBody⟩

instance similar_matching {w w' : List MatchCase} [he : Similar p e e'] [hw : Similar p w w'] :
    Similar p (StmtForm.matching e w) (.matching e' w') :=
  ⟨congrArg₂ StmtForm.matching he.alike hw.seenInCases⟩

instance similar_raising [ho : Similar p o o'] [hn : Similar p n n'] :
    Similar p (StmtForm.raising o n) (.raising o' n') :=
  ⟨congrArg₂ StmtForm.raising ho.seenInSome hn.seenInSome⟩

instance similar_trying {isGroup : Bool} {w w' : List Handler} [hb : Similar p b b']
    [hw : Similar p w w'] [hc : Similar p c c'] [hd : Similar p d d'] :
    Similar p (StmtForm.trying isGroup b w c d) (.trying isGroup b' w' c' d') := by
  refine ⟨?_⟩
  show StmtForm.seen _ _ = StmtForm.seen _ _
  rw [StmtForm.seen, StmtForm.seen, hb.seenInBody, hw.seenInHandlers, hc.seenInBody,
    hd.seenInBody]

instance similar_assertion [he : Similar p e e'] [ho : Similar p o o'] :
    Similar p (StmtForm.assertion e o) (.assertion e' o') :=
  ⟨congrArg₂ StmtForm.assertion he.alike ho.seenInSome⟩

instance similar_importedName {bound bound' : Option String} [hn : Similar p name name']
    [hb : Similar p bound bound'] :
    Similar p (⟨name, bound⟩ : ImportedName) ⟨name', bound'⟩ :=
  ⟨congrArg₂ ImportedName.mk hn.alike (eq_of_similar_names hb.alike)⟩

instance similar_importing {w w' : List ImportedName} [hw : Similar p w w'] :
    Similar p (StmtForm.importing w) (.importing w') :=
  ⟨congrArg StmtForm.importing (eq_of_similar_list hw.alike)⟩

instance similar_importingFrom {from_ from' : Option String} {w w' : List ImportedName}
    {points points' : Nat} [hf : Similar p from_ from'] [hw : Similar p w w']
    [hp : Similar p points points'] :
    Similar p (StmtForm.importingFrom from_ w points) (.importingFrom from' w' points') := by
  obtain rfl : from_ = from' := eq_of_similar_names hf.alike
  exact ⟨congrArg₂ (StmtForm.importingFrom from_) (eq_of_similar_list hw.alike) hp.alike⟩

instance similar_declareGlobal {w w' : List String} [hw : Similar p w w'] :
    Similar p (StmtForm.declareGlobal w) (.declareGlobal w') :=
  ⟨congrArg StmtForm.declareGlobal (eq_of_similar_list hw.alike)⟩

instance similar_declareNonlocal {w w' : List String} [hw : Similar p w w'] :
    Similar p (StmtForm.declareNonlocal w) (.declareNonlocal w') :=
  ⟨congrArg StmtForm.declareNonlocal (eq_of_similar_list hw.alike)⟩

instance similar_expressionForm [he : Similar p e e'] :
    Similar p (StmtForm.expression e) (.expression e') := ⟨congrArg StmtForm.expression he.alike⟩

instance similar_word {form : StmtForm} [h : Passes (form matches .pass | .breaking | .continuing)] :
    Similar p form form := by
  have h := h.passes
  cases form <;> simp only [Bool.false_eq_true] at h <;> exact ⟨rfl⟩

/-! ## Parts of statements -/

instance similar_manager [he : Similar p e e'] [ho : Similar p o o'] :
    Similar p (⟨e, o⟩ : Manager) ⟨e', o'⟩ := ⟨congrArg₂ Manager.mk he.alike ho.seenInSome⟩

instance similar_handler {bound bound' : Option String} [hs : Similar p span span']
    [ho : Similar p o o'] [hn : Similar p bound bound'] [hb : Similar p b b'] :
    Similar p (Handler.mk span o bound b) (.mk span' o' bound' b') := by
  obtain rfl : bound = bound' := eq_of_similar_names hn.alike
  refine ⟨?_⟩
  have hs : p.leftView.span span = p.rightView.span span' := hs.alike
  show Handler.seen _ _ = Handler.seen _ _
  rw [Handler.seen, Handler.seen, hs, ho.seenInSome, hb.seenInBody]

instance similar_case {q q' : Pattern} [hq : Similar p q q'] [ho : Similar p o o']
    [hb : Similar p b b'] : Similar p (MatchCase.mk q o b) (.mk q' o' b') := by
  refine ⟨?_⟩
  show MatchCase.seen _ _ = MatchCase.seen _ _
  rw [MatchCase.seen, MatchCase.seen, hq.alike, ho.seenInSome, hb.seenInBody]

end

/-! ## Readers of trees -/

namespace Reader

variable {later s : Bool} [hp : p.Fair]

instance agree_expression {r r' : Reader Form} [Agree p later true r r'] :
    Agree p later true (expression r) (expression r') := by
  have form (twin : Twin p (Span × Form)) : Agree p true false
      (match twin.left with | (span, form) => (pure (Expr.mk span form) : Reader Expr))
      (match twin.right with | (span, form) => pure (Expr.mk span form)) := by
    obtain ⟨⟨_, _⟩, ⟨_, _⟩, hspan, hform⟩ := twin
    exact agree_pure (h := ⟨congrArg₂ Expr.mk hspan hform⟩)
  unfold expression
  exact agree_bind_strict

instance agree_statement {r r' : Reader StmtForm} [Agree p later true r r'] :
    Agree p later true (statement r) (statement r') := by
  have form (twin : Twin p (Span × StmtForm)) : Agree p true false
      (match twin.left with | (span, form) => (pure (Stmt.mk span form) : Reader Stmt))
      (match twin.right with | (span, form) => pure (Stmt.mk span form)) := by
    obtain ⟨⟨_, _⟩, ⟨_, _⟩, hspan, hform⟩ := twin
    exact agree_pure (h := ⟨congrArg₂ Stmt.mk hspan hform⟩)
  unfold statement
  exact agree_bind_strict

end Reader

end AdjointSynthesis.Code

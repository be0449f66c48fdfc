import AdjointSynthesis.Proofs.Agreement.Rules

/-!
# Agreement of texts

Two text tokens beside each other hold the same fields.  Their expressions are shorter than the
tokens, so they are read alike as far as `Ready` knows, and all else in a text is found by looking
at its characters.
-/

namespace AdjointSynthesis.Code

open Reader

/-! ## How long the parts of a text are -/

/-- What ends the expression of a field is at least a sign. -/
lemma length_of_behindExpression {quote : Option (Char × Bool)} {open_ : List Char} {unseen : Nat}
    {text behind : List Char} (h : behindExpression quote open_ unseen text = .ok behind) :
    behind.length ≤ text.length ∧ 0 < behind.length := by
  fun_induction behindExpression quote open_ unseen text <;> grind

lemma eq_ok_of_map {α β ε : Type} {f : α → β} {result : Except ε α} {b : β}
    (h : result.map f = .ok b) : ∃ a, result = .ok a ∧ f a = b := by
  cases result with
  | error e => cases h
  | ok a => exact ⟨a, rfl, Except.ok.inj h⟩

lemma eq_ok_of_mapError {α ε ε' : Type} {f : ε → ε'} {result : Except ε α} {a : α}
    (h : result.mapError f = .ok a) : result = .ok a := by
  cases result with
  | error e => cases h
  | ok b => exact congrArg Except.ok (Except.ok.inj h)

lemma length_throughBrace (text : List Char) :
    (throughBrace text).1.length + (throughBrace text).2.length = text.length := by
  fun_induction throughBrace text <;> grind

lemma length_of_stretch {raw inFormat : Bool} {fuel : Nat} {text : List Char} {found : Stretch}
    (h : stretch raw inFormat fuel text = .ok found) : found.rest.length ≤ text.length := by
  fun_induction stretch raw inFormat fuel text generalizing found
  case case4 fuel c named skipped behind hskip hc ih =>
    obtain ⟨found, hfound, rfl⟩ := eq_ok_of_map h
    have := length_throughBrace named
    have := ih hfound
    grind
  all_goals grind [stretch.brace, → eq_ok_of_map, Stretch.cons]

/-- The characters of a text token from its first quote on. -/
def quotedPart (token : Token) : List Char :=
  token.written.drop (token.written.takeWhile fun c => !isQuote c).length

/-- As many quotes are taken off at the end of a body as at its beginning. -/
lemma exists_body_eq (token : Token) : ∃ quotes : Nat,
    (TextToken.ofToken token).body = ((quotedPart token).drop quotes).take
      ((quotedPart token).length - 2 * quotes) ∧ 1 ≤ quotes := by
  refine ⟨_, rfl, ?_⟩
  split
  · split <;> decide
  · decide

/-- The body of a text with fields is shorter than its token by a letter and two quotes. -/
lemma length_body {token : Token} (h : (TextToken.ofToken token).hasFields = true)
    (hbody : (TextToken.ofToken token).body ≠ []) :
    (TextToken.ofToken token).body.length + 3 ≤ token.written.length := by
  have hletters : token.written.takeWhile (fun c => !isQuote c) ≠ [] := by
    intro hnil
    simp only [TextToken.ofToken, hnil, List.any_nil, Bool.false_eq_true] at h
  have hpos := List.length_pos_iff.mpr hletters
  have hbody := List.length_pos_iff.mpr hbody
  obtain ⟨quotes, heq, hquotes⟩ := exists_body_eq token
  rw [heq, quotedPart, List.length_take, List.length_drop, List.length_drop] at hbody ⊢
  omega

namespace Grammar

/-! ## A field step by step -/

/-- A fault if a test holds. -/
def faultIf (test : Bool) (fault : FieldFault) : Except Cause Unit :=
  if test then .error (.field fault) else .ok ()

/-- What stands behind the sign of a field that shows its expression. -/
def behindSign (behind : List Char) : List Char :=
  if behind.head? = some '=' then (behind.drop 1).dropWhile isSignSpace else behind

/-- The conversion of a field. -/
def conversionAt (rest : List Char) : Except Cause (Option Char) :=
  if rest.head? = some '!' then
    match rest.drop 1 with
    | [] => .error (.field .unclosed)
    | c :: _ => if c = 's' ∨ c = 'r' ∨ c = 'a' then .ok (some c) else .error (.field .conversion)
  else .ok none

/-- The format of a field and what stands behind it. -/
def formatAt (format : Option (List Char → Reader (Expr × List Char))) (rest : List Char) :
    Reader (Option Expr × List Char) :=
  if rest.head? = some ':' then
    match format, rest.drop 1 with
    | some format, c :: more => do
      let (spec, rest) ← format (c :: more)
      return (some spec, rest)
    | _, _ => refuse (.field .unclosed)
  else return (none, rest)

/-- A field from its parts. -/
def fieldOf (place : TextPlace) (behindBrace behind : List Char) (value : Expr)
    (conversion : Option Char) (spec : Option Expr) : List TextUnit × Expr :=
  let isShown := decide (behind.head? = some '=')
  let shown := behindBrace.take (behindBrace.length - (behindSign behind).length)
  let conversion := if isShown && spec.isNone && conversion.isNone then some 'r' else conversion
  (if isShown then shown.map fun c => .code c.toNat else [],
    .mk place.span (.field value conversion spec))

section

variable {α : Type}

lemma faultIf_bind (test : Prop) [Decidable test] (fault : FieldFault) (next : Unit → Reader α) :
    (if test then refuse (.field fault) >>= next else next ()) =
      orRefuse (faultIf (decide test) fault) >>= next := by
  unfold faultIf
  by_cases h : test
  · simp only [h, if_true, decide_true]
    rfl
  · simp only [h, if_false, decide_false, Bool.false_eq_true]
    rfl

lemma conversion_bind (rest : List Char) (next : Option Char → Reader α) :
    (if rest.head? = some '!' then
      match rest.drop 1 with
      | [] => refuse (.field .unclosed) >>= next
      | c :: _ =>
        if c = 's' ∨ c = 'r' ∨ c = 'a' then pure (some c) >>= next
        else refuse (.field .conversion) >>= next
    else pure none >>= next) = orRefuse (conversionAt rest) >>= next := by
  unfold conversionAt
  split
  · cases rest.drop 1 with
    | nil => rfl
    | cons c more =>
      dsimp only
      split <;> rfl
  · rfl

lemma format_bind (format : Option (List Char → Reader (Expr × List Char))) (rest : List Char)
    (next : Option Expr × List Char → Reader α) :
    (if rest.head? = some ':' then
      match format, rest.drop 1 with
      | some format, c :: more => do
        let found ← format (c :: more)
        let found ← pure (some found.1, found.2)
        next found
      | _, _ => refuse (.field .unclosed) >>= next
    else pure (none, rest) >>= next) = formatAt format rest >>= next := by
  unfold formatAt
  split
  · cases format with
    | none => rfl
    | some format =>
      cases rest.drop 1 with
      | nil => rfl
      | cons c more =>
        dsimp only
        rw [bind_assoc]
  · rfl

end

variable {sub sub' : Grammar}

/-- A field is read in six steps, each of which may refuse it. -/
lemma field_eq (place : TextPlace) (text : TextToken)
    (format : Option (List Char → Reader (Expr × List Char))) (behindBrace : List Char) :
    field sub place text format behindBrace = (do
      orRefuse (faultIf format.isNone .nestedTooDeep)
      let behind ← orRefuseField (behindExpression none [] 0 behindBrace)
      let value ← fieldValue sub text behindBrace
        (behindBrace.take (behindBrace.length - behind.length)) (behind.headD '\x7d')
      orRefuse (faultIf (behindSign behind).isEmpty .unclosed)
      let conversion ← orRefuse (conversionAt (behindSign behind))
      let found ← formatAt format
        (if conversion.isSome then (behindSign behind).drop 2 else behindSign behind)
      orRefuse (faultIf (decide (found.2.head? ≠ some '\x7d')) .unclosed)
      let parts := fieldOf place behindBrace behind value conversion found.1
      return (parts.1, parts.2, found.2.drop 1)) := by
  have hsign (behind : List Char) : (if behind.head? = some '=' then
    (behind.drop 1).dropWhile isSignSpace else behind) = behindSign behind := rfl
  simp only [field, hsign, faultIf_bind, Bool.decide_eq_true, ← conversion_bind, ← format_bind]
  rfl

/-! ## Results and fields -/

section

variable {α β : Type} [Compared α] [Compared β] {p : Pairing} {later s t : Bool}

omit [Compared α] in
lemma ensures_orRefuse_bind {γ : Type} {result : Except Cause γ} {f : γ → Reader α} {P : α → Prop}
    (h : ∀ value, result = .ok value → Ensures (f value) P) : Ensures (orRefuse result >>= f) P := by
  cases result with
  | ok value => exact h value rfl
  | error cause => exact .refuse (α := α)

/-- The same result is taken or refused on both sides. -/
lemma agree_orRefuse_bind {γ : Type} {result : Except Cause γ} {f f' : γ → Reader α}
    (h : ∀ value, result = .ok value → Agree p later s (f value) (f' value)) :
    Agree p later s (orRefuse result >>= f) (orRefuse result >>= f') := by
  cases result with
  | ok value => exact h value rfl
  | error cause =>
    have refused : Agree p later true (refuse cause : Reader α) (refuse cause) := agree_refuse
    cases s
    · exact refused.weaken
    · exact refused

lemma agree_bind_ensures {r r' : Reader α} {f f' : α → Reader β} {P : α → Prop}
    (h : Agree p later false r r') (hP : Ensures r P)
    (hf : ∀ twin : Twin p α, P twin.left → Agree p later t (f twin.left) (f' twin.right)) :
    Agree p later t (r >>= f) (r' >>= f') := by
  refine ⟨Agrees.bind_ensures (s := false) h.agrees hP
    (fun a a' ha hp => (hf ⟨a, a', ha⟩ hp).agrees) ?_⟩
  exact fun _ _ hi hij _ _ _ => Pairing.starts_of_le hi hij

lemma similar_same_list [h : ∀ a : α, Similar p a a] (l : List α) : Similar p l l := by
  refine ⟨?_⟩
  induction l with
  | nil => exact .nil
  | cons a rest ih => exact .cons (h a).alike ih

instance similar_unit_of_text {a : TextUnit} : Similar p a a := ⟨rfl⟩

instance similar_char {a : Char} : Similar p a a := ⟨rfl⟩

instance similar_units {l : List TextUnit} : Similar p l l := similar_same_list l

instance similar_chars {l : List Char} : Similar p l l := similar_same_list l

instance comparedTextPlace : Compared TextPlace :=
  ⟨fun p a b => Compared.alike p a.span b.span ∧ a.marked = b.marked⟩

instance comparedPieces : Compared Pieces :=
  ⟨fun p a b => Compared.alike p a.parts b.parts ∧ a.units = b.units⟩

/-- Two readers of formats that agree on texts up to a length. -/
def FormatsAgree (p : Pairing) (count : Nat) (format format' : List Char → Reader (Expr × List Char)) :
    Prop :=
  ∀ rest, rest.length ≤ count → Agree p true false (format rest) (format' rest)

/-- A reader of formats leaves no more than it was given. -/
def Shortens (format : List Char → Reader (Expr × List Char)) : Prop :=
  ∀ rest, Ensures (format rest) fun found => found.2.length ≤ rest.length

end

section

variable {p : Pairing} [hp : p.Fair] [hr : Ready p sub sub'] {text : TextToken} {other : Token}
  {place place' : TextPlace} {count : Nat}
  {format format' : Option (List Char → Reader (Expr × List Char))}

omit hp hr in
lemma ensures_formatAt (hs : ∀ f ∈ format, Shortens f) (rest : List Char) :
    Ensures (formatAt format rest) fun found => found.2.length ≤ rest.length := by
  unfold formatAt
  split
  · split
    · next format c more hdrop =>
      have hlen : more.length + 1 ≤ rest.length := by
        have := congrArg List.length hdrop
        rw [List.length_drop, List.length_cons] at this
        omega
      refine (hs format rfl (c :: more)).bind fun found hfound => .pure ?_
      rw [List.length_cons] at hfound
      show found.2.length ≤ rest.length
      omega
    · exact .refuse
  · exact .pure (Nat.le_refl _)

omit hp hr in
lemma agree_formatAt (hf : Option.Rel (FormatsAgree p count) format format') (rest : List Char)
    (hrest : rest.length ≤ count) :
    Agree p true false (formatAt format rest) (formatAt format' rest) := by
  unfold formatAt
  split
  · cases hf with
    | none => exact agree_refuse.weaken
    | some hf =>
      cases hdrop : rest.drop 1 with
      | nil => exact agree_refuse.weaken
      | cons c more =>
        have hlen := congrArg List.length hdrop
        rw [List.length_drop] at hlen
        have := hf (c :: more) (by omega)
        infer_instance
  · infer_instance

omit hp in
/-- The expression of a field is read alike. -/
lemma agree_fieldValue (h : p.Matched text.token other) (behindBrace expression : List Char)
    (sign : Char) (hlen : expression.length + 5 ≤ text.token.written.length) :
    Agree p true false (fieldValue sub text behindBrace expression sign)
      (fieldValue sub' { text with token := other } behindBrace expression sign) := by
  refine ⟨fun i g g' _ hstop hg => ?_⟩
  unfold fieldValue
  split
  · exact ⟨hg, trivial⟩
  · have hfield := hr.field text.token other (text.token.written.take
      (text.offset + (text.body.length - behindBrace.length) - 1)) behindBrace expression h hlen
    dsimp only
    rw [← h.written]
    revert hfield
    generalize readAll (starExpressions sub) _ true = result
    generalize readAll (starExpressions sub') _ true = result'
    cases result <;> cases result' <;> simp only [ResultsAgree, false_imp_iff]
    · exact fun _ => ⟨hg, trivial⟩
    · exact fun hvalue => ⟨hg, hvalue, rfl, Nat.le_refl _, by simp, hstop, rfl⟩

omit hp hr in
lemma length_behindSign (behind : List Char) : (behindSign behind).length ≤ behind.length := by
  unfold behindSign
  split
  · have := (List.dropWhile_suffix (p := isSignSpace) (l := behind.drop 1)).length_le
    rw [List.length_drop] at this
    omega
  · exact Nat.le_refl _

omit hp hr in
/-- A field leaves less than stands behind its brace. -/
lemma ensures_field (hs : ∀ f ∈ format, Shortens f) (behindBrace : List Char) :
    Ensures (field sub place text format behindBrace)
      fun found => found.2.2.length + 1 ≤ behindBrace.length := by
  rw [field_eq]
  refine ensures_orRefuse_bind fun _ _ => ensures_orRefuse_bind fun behind hbehind => ?_
  have hlen := length_of_behindExpression (eq_ok_of_mapError hbehind)
  have hsign := length_behindSign behind
  refine Ensures.bind .trivial fun value _ => ?_
  refine ensures_orRefuse_bind fun _ _ => ensures_orRefuse_bind fun conversion _ => ?_
  refine (ensures_formatAt hs _).bind fun found hfound => ?_
  refine ensures_orRefuse_bind fun _ hbrace => .pure ?_
  have hrest : found.2 ≠ [] := by
    intro hnil
    simp [faultIf, hnil] at hbrace
  have hpos := List.length_pos_iff.mpr hrest
  have hconversion : (if conversion.isSome then (behindSign behind).drop 2
      else behindSign behind).length ≤ (behindSign behind).length := by
    split
    · rw [List.length_drop]
      omega
    · exact Nat.le_refl _
  show (found.2.drop 1).length + 1 ≤ behindBrace.length
  rw [List.length_drop]
  omega

omit hp hr in
lemma alike_fieldOf (hplace : Compared.alike p place place') (behindBrace behind : List Char)
    {value value' : Expr} (conversion : Option Char) {spec spec' : Option Expr}
    (hvalue : Compared.alike p value value') (hspec : Compared.alike p spec spec') :
    (fieldOf place behindBrace behind value conversion spec).1 =
        (fieldOf place' behindBrace behind value' conversion spec').1 ∧
      Compared.alike p (fieldOf place behindBrace behind value conversion spec).2
        (fieldOf place' behindBrace behind value' conversion spec').2 := by
  have : Similar p place.span place'.span := ⟨hplace.1⟩
  have : Similar p value value' := ⟨hvalue⟩
  have : Similar p spec spec' := ⟨hspec⟩
  have hnone : spec.isNone = spec'.isNone := (inferInstance : Similar p spec.isNone _).alike
  refine ⟨rfl, ?_⟩
  unfold fieldOf
  dsimp only
  rw [hnone]
  exact Similar.alike

omit hp in
/-- Fields agree when their formats do. -/
lemma agree_field (h : p.Matched text.token other) (hplace : Compared.alike p place place')
    (hf : Option.Rel (FormatsAgree p count) format format') (hs : ∀ f ∈ format, Shortens f)
    (behindBrace : List Char) (hcount : behindBrace.length ≤ count)
    (hlen : behindBrace.length + 4 ≤ text.token.written.length) :
    Agree p true false (field sub place text format behindBrace)
      (field sub' place' { text with token := other } format' behindBrace) := by
  have hnone : format.isNone = format'.isNone := by cases hf <;> rfl
  rw [field_eq, field_eq, hnone]
  refine agree_orRefuse_bind fun _ _ => agree_orRefuse_bind fun behind hbehind => ?_
  have hbehind := length_of_behindExpression (eq_ok_of_mapError hbehind)
  have hsign := length_behindSign behind
  have hvalue : Agree p true false
      (fieldValue sub text behindBrace (behindBrace.take (behindBrace.length - behind.length))
        (behind.headD '\x7d'))
      (fieldValue sub' { text with token := other } behindBrace
        (behindBrace.take (behindBrace.length - behind.length)) (behind.headD '\x7d')) :=
    agree_fieldValue h _ _ _ (by rw [List.length_take]; omega)
  refine agree_bind_ensures hvalue .trivial fun value _ => ?_
  refine agree_orRefuse_bind fun _ _ => agree_orRefuse_bind fun conversion _ => ?_
  have hconversion : (if conversion.isSome then (behindSign behind).drop 2
      else behindSign behind).length ≤ count := by
    split
    · rw [List.length_drop]
      omega
    · omega
  refine agree_bind_ensures (agree_formatAt hf _ hconversion) .trivial fun found _ => ?_
  obtain ⟨⟨spec, rest⟩, ⟨spec', rest'⟩, hspec, hrest⟩ := found
  obtain rfl : rest = rest' := eq_of_similar_list hrest
  refine agree_orRefuse_bind fun _ _ => ?_
  have hparts := alike_fieldOf hplace behindBrace behind conversion value.alike hspec
  have : Similar p (fieldOf place behindBrace behind value.left conversion spec).2
      (fieldOf place' behindBrace behind value.right conversion spec').2 := ⟨hparts.2⟩
  dsimp only
  rw [hparts.1]
  infer_instance

/-! ## Bodies and formats -/

omit hp hr in
lemma ensures_bodyPieces (hs : ∀ f ∈ format, Shortens f) (inFormat : Bool) (fuel : Nat)
    (pieces : Pieces) (rest : List Char) :
    Ensures (bodyPieces sub place text inFormat format fuel pieces rest)
      fun found => found.2.length ≤ rest.length := by
  induction fuel generalizing pieces rest with
  | zero => exact .pure (Nat.le_refl _)
  | succ fuel ih =>
    unfold bodyPieces
    refine ensures_orRefuse_bind fun found hfound => ensures_orRefuse_bind fun units _ => ?_
    have hlen := length_of_stretch (eq_ok_of_mapError hfound)
    dsimp only
    split
    · exact fun _ _ _ _ _ _ hread => Nat.le_trans (ih _ _ _ _ _ _ _ _ hread) hlen
    · split
      · exact .pure (Nat.zero_le _)
      · next c behindBrace hrest =>
        have hcons := congrArg List.length hrest
        rw [List.length_cons] at hcons
        split
        · exact .pure hlen
        · refine (ensures_field hs behindBrace).bind fun next hnext => ?_
          obtain ⟨shown, value, after⟩ := next
          refine fun _ _ _ _ _ _ hread => Nat.le_trans (ih _ _ _ _ _ _ _ _ hread) ?_
          dsimp only at hnext ⊢
          omega

omit hp hr in
lemma alike_closed {pieces pieces' : Pieces} (hplace : Compared.alike p place place')
    (hpieces : Compared.alike p pieces pieces') :
    Compared.alike p (pieces.closed place) (pieces'.closed place') := by
  obtain ⟨parts, units⟩ := pieces
  obtain ⟨parts', units'⟩ := pieces'
  obtain ⟨hparts, rfl⟩ := hpieces
  have : Similar p place.span place'.span := ⟨hplace.1⟩
  have hparts : Similar p parts parts' := ⟨hparts⟩
  unfold Pieces.closed
  dsimp only
  split
  · exact hparts.alike
  · rw [hplace.2]
    exact Similar.alike

omit hp in
/-- Bodies agree when the formats of their fields do. -/
lemma agree_bodyPieces (h : p.Matched text.token other) (hplace : Compared.alike p place place')
    (hf : Option.Rel (FormatsAgree p count) format format') (hs : ∀ f ∈ format, Shortens f)
    (hcount : 0 < count → count + 3 ≤ text.token.written.length) (inFormat : Bool) (fuel : Nat)
    {pieces pieces' : Pieces} (hpieces : Compared.alike p pieces pieces') (rest : List Char)
    (hrest : rest.length ≤ count) :
    Agree p true false (bodyPieces sub place text inFormat format fuel pieces rest)
      (bodyPieces sub' place' { text with token := other } inFormat format' fuel pieces' rest) := by
  induction fuel generalizing pieces pieces' rest with
  | zero =>
    have : Similar p pieces pieces' := ⟨hpieces⟩
    exact agree_pure
  | succ fuel ih =>
    unfold bodyPieces
    refine agree_orRefuse_bind fun found hfound => agree_orRefuse_bind fun units _ => ?_
    have hlen := length_of_stretch (eq_ok_of_mapError hfound)
    have hmore (more : List TextUnit) : Compared.alike p
        ({ pieces with units := pieces.units ++ more } : Pieces)
        { pieces' with units := pieces'.units ++ more } :=
      ⟨hpieces.1, congrArg (· ++ more) hpieces.2⟩
    have : Similar p ({ pieces with units := pieces.units ++ units } : Pieces)
        { pieces' with units := pieces'.units ++ units } := ⟨hmore units⟩
    dsimp only
    split
    · exact ih (hmore units) _ (by omega)
    · cases hrest : found.rest with
      | nil => exact agree_pure
      | cons c behindBrace =>
        rw [hrest, List.length_cons] at hlen
        dsimp only
        split
        · exact agree_pure
        · refine agree_bind_ensures (agree_field h hplace hf hs behindBrace (by omega) (by omega))
            (ensures_field hs behindBrace) fun next hnext => ?_
          obtain ⟨⟨shown, value, rest⟩, ⟨shown', value', rest'⟩, hshown, hvalue, hrest⟩ := next
          obtain rfl : shown = shown' := eq_of_similar_list hshown
          obtain rfl : rest = rest' := eq_of_similar_list hrest
          dsimp only at hnext ⊢
          have hall := hmore (units ++ shown)
          rw [← List.append_assoc, ← List.append_assoc] at hall
          have halike : Compared.alike p (⟨value :: Pieces.closed _ place, []⟩ : Pieces)
              ⟨value' :: Pieces.closed _ place', []⟩ :=
            ⟨.cons hvalue (alike_closed hplace hall), rfl⟩
          exact ih halike rest (by omega)

omit hp hr in
lemma shortens_specOf (hs : ∀ f ∈ format, Shortens f) :
    Shortens (formatSpec.specOf sub place text format) := by
  intro rest
  simp only [formatSpec.specOf, faultIf_bind]
  refine (ensures_bodyPieces hs true _ _ rest).bind fun found hfound => ?_
  exact ensures_orRefuse_bind fun _ _ => .pure hfound

omit hp hr in
lemma shortens_formatSpec (depth : Nat) : Shortens (formatSpec sub place text depth) := by
  induction depth with
  | zero => exact shortens_specOf fun _ h => by cases h
  | succ depth ih =>
    refine shortens_specOf fun f h => ?_
    cases h
    exact ih

omit hp in
lemma formatsAgree_specOf (h : p.Matched text.token other) (hplace : Compared.alike p place place')
    (hf : Option.Rel (FormatsAgree p count) format format') (hs : ∀ f ∈ format, Shortens f)
    (hcount : 0 < count → count + 3 ≤ text.token.written.length) :
    FormatsAgree p count (formatSpec.specOf sub place text format)
      (formatSpec.specOf sub' place' { text with token := other } format') := by
  intro rest hrest
  have none : Compared.alike p (⟨[], []⟩ : Pieces) ⟨[], []⟩ := ⟨.nil, rfl⟩
  have body : Agree p true false
      (bodyPieces sub place text true format (rest.length + 1) ⟨[], []⟩ rest)
      (bodyPieces sub' place' { text with token := other } true format' (rest.length + 1) ⟨[], []⟩
        rest) := agree_bodyPieces h hplace hf hs hcount true _ none rest hrest
  simp only [formatSpec.specOf, faultIf_bind]
  refine agree_bind_ensures body .trivial fun found _ => ?_
  obtain ⟨⟨pieces, rest⟩, ⟨pieces', rest'⟩, hpieces, hrest⟩ := found
  obtain rfl : rest = rest' := eq_of_similar_list hrest
  refine agree_orRefuse_bind fun _ _ => ?_
  have hspan : Similar p text.token.span other.span := ⟨h.span⟩
  have own : Compared.alike p
      (⟨text.token.span, text.token.written.head? = some 'u'⟩ : TextPlace)
      ⟨other.span, other.written.head? = some 'u'⟩ := ⟨h.span, by rw [h.written]⟩
  have : Similar p _ _ := ⟨alike_closed own hpieces⟩
  dsimp only
  infer_instance

omit hp in
lemma formatsAgree_formatSpec (h : p.Matched text.token other)
    (hplace : Compared.alike p place place')
    (hcount : 0 < count → count + 3 ≤ text.token.written.length) (depth : Nat) :
    FormatsAgree p count (formatSpec sub place text depth)
      (formatSpec sub' place' { text with token := other } depth) := by
  induction depth with
  | zero => exact formatsAgree_specOf h hplace .none (fun _ h => by cases h) hcount
  | succ depth ih =>
    refine formatsAgree_specOf h hplace (.some ih) (fun f hf => ?_) hcount
    cases hf
    exact shortens_formatSpec depth

/-! ## Tokens in a row -/

instance comparedTextToken : Compared TextToken :=
  ⟨fun p text text' => ∃ token other, p.Matched token other ∧ text = .ofToken token ∧
    text' = .ofToken other⟩

omit hp hr in
/-- Tokens that are written alike are taken apart alike. -/
lemma ofToken_eq {token : Token} (h : token.written = other.written) :
    TextToken.ofToken other = { TextToken.ofToken token with token := other } := by
  unfold TextToken.ofToken
  rw [h]

omit hp in
lemma agree_tokenPieces {text text' : TextToken} (ht : Compared.alike p text text')
    (hplace : Compared.alike p place place') {pieces pieces' : Pieces}
    (hpieces : Compared.alike p pieces pieces') :
    Agree p true false (tokenPieces sub place pieces text) (tokenPieces sub' place' pieces' text') := by
  obtain ⟨token, other, h, rfl, rfl⟩ := ht
  rw [ofToken_eq h.written]
  have h : p.Matched (TextToken.ofToken token).token other := h
  unfold tokenPieces
  dsimp only
  split
  · next hfields =>
    have hcount : 0 < (TextToken.ofToken token).body.length →
        (TextToken.ofToken token).body.length + 3 ≤ token.written.length :=
      fun hpos => length_body hfields (List.length_pos_iff.mp hpos)
    have format : FormatsAgree p (TextToken.ofToken token).body.length
        (formatSpec sub place (.ofToken token) 1)
        (formatSpec sub' place' { TextToken.ofToken token with token := other } 1) :=
      formatsAgree_formatSpec h hplace hcount 1
    have short : ∀ f ∈ some (formatSpec sub place (.ofToken token) 1), Shortens f := by
      rintro f hf
      cases hf
      exact shortens_formatSpec 1
    refine agree_bind_ensures (agree_bodyPieces h hplace (.some format) short hcount false _ hpieces
      _ (Nat.le_refl _)) .trivial fun found _ => ?_
    obtain ⟨⟨pieces, rest⟩, ⟨pieces', rest'⟩, hpieces, hrest⟩ := found
    obtain rfl : rest = rest' := eq_of_similar_list hrest
    have : Similar p pieces pieces' := ⟨hpieces⟩
    simp only [faultIf_bind]
    exact agree_orRefuse_bind fun _ _ => agree_pure
  · refine agree_orRefuse_bind fun units _ => ?_
    exact agree_pure (h := ⟨hpieces.1, congrArg (· ++ units) hpieces.2⟩)

omit hp in
lemma agree_allPieces {texts texts' : List TextToken} (ht : Compared.alike p texts texts')
    (hplace : Compared.alike p place place') {pieces pieces' : Pieces}
    (hpieces : Compared.alike p pieces pieces') :
    Agree p true false (allPieces sub place pieces texts)
      (allPieces sub' place' pieces' texts') := by
  induction ht generalizing pieces pieces' with
  | nil => exact agree_pure (h := ⟨hpieces⟩)
  | @cons text text' rest rest' h hrest ih =>
    have hbytes : text.bytes = text'.bytes := by
      obtain ⟨token, other, h, rfl, rfl⟩ := h
      rw [ofToken_eq h.written]
    unfold allPieces
    refine agree_bind_ensures (agree_tokenPieces h hplace hpieces) .trivial fun found _ => ?_
    rw [hbytes]
    split
    · exact agree_refuse.weaken
    · exact ih found.alike

omit hp hr in
lemma agree_allBytes {texts texts' : List TextToken} (ht : Compared.alike p texts texts') :
    Agree p true false (allBytes texts) (allBytes texts') := by
  induction ht with
  | nil => exact agree_pure
  | @cons text text' rest rest' h hrest ih =>
    obtain ⟨token, other, h, rfl, rfl⟩ := h
    rw [ofToken_eq h.written]
    unfold allBytes
    dsimp only
    generalize byteValues (TextToken.ofToken token).raw (TextToken.ofToken token).body = result
    have rest (values : List Nat) : Agree p true false
        (do return values ++ (← allBytes rest) : Reader (List Nat))
        (do return values ++ (← allBytes rest')) := by
      have : Similar p values values := similar_same_list values
      infer_instance
    cases result with
    | error cause => cases cause <;> first | exact agree_refuse.weaken | exact agree_refuseToken.weaken
    | ok values =>
      simp only [pure_bind]
      split
      · exact agree_refuse.weaken
      · exact rest values

omit hp hr in
lemma forall₂_ofToken {tokens tokens' : List Token} (h : Compared.alike p tokens tokens') :
    Compared.alike p (tokens.map TextToken.ofToken) (tokens'.map TextToken.ofToken) :=
  List.rel_map (fun token other h => ⟨token, other, h, rfl, rfl⟩) h

omit hp hr in
lemma any_hasFields {texts texts' : List TextToken} (h : Compared.alike p texts texts') :
    texts.any TextToken.hasFields = texts'.any TextToken.hasFields := by
  induction h with
  | nil => rfl
  | cons h _ ih =>
    obtain ⟨token, other, h, rfl, rfl⟩ := h
    rw [ofToken_eq h.written, List.any_cons, List.any_cons, ih]

/-- The constant or template that some text tokens make up. -/
def textOf (sub : Grammar) (span : Span) (texts : List TextToken) : Reader Expr :=
  match texts with
  | [] => nothing
  | first :: _ =>
    if first.bytes then do return .mk span (.constant (.bytes (← allBytes texts)))
    else do
      let place : TextPlace := ⟨span, first.token.written.head? = some 'u'⟩
      let pieces ← allPieces sub place ⟨[], []⟩ texts
      if texts.any TextToken.hasFields then
        return .mk span (.template (pieces.closed place).reverse)
      else return .mk span (.constant (.text pieces.units place.marked))

omit hp in
lemma agree_textOf {span span' : Span} {texts texts' : List TextToken}
    (hspan : Compared.alike p span span') (ht : Compared.alike p texts texts') :
    Agree p true false (textOf sub span texts) (textOf sub' span' texts') := by
  have : Similar p span span' := ⟨hspan⟩
  have fields := any_hasFields ht
  unfold textOf
  cases ht with
  | nil => exact agree_nothing.weaken
  | @cons first first' rest rest' h hrest =>
    have all : Compared.alike p (first :: rest) (first' :: rest') := .cons h hrest
    obtain ⟨token, other, h, rfl, rfl⟩ := h
    dsimp only
    rw [fields]
    have hbytes : (TextToken.ofToken token).bytes = (TextToken.ofToken other).bytes := by
      rw [ofToken_eq h.written]
    have hplace : Compared.alike p
        (⟨span, (TextToken.ofToken token).token.written.head? = some 'u'⟩ : TextPlace)
        ⟨span', (TextToken.ofToken other).token.written.head? = some 'u'⟩ := by
      have hw : (TextToken.ofToken token).token.written = (TextToken.ofToken other).token.written :=
        h.written
      refine ⟨hspan, ?_⟩
      simp only [hw]
    rw [hbytes]
    split
    · refine agree_bind_ensures (agree_allBytes all) .trivial fun values _ => ?_
      obtain ⟨values, values', hvalues⟩ := values
      obtain rfl : values = values' := eq_of_similar_list hvalues
      infer_instance
    · have none : Compared.alike p (⟨[], []⟩ : Pieces) ⟨[], []⟩ := ⟨.nil, rfl⟩
      refine agree_bind_ensures (agree_allPieces all hplace none) .trivial fun pieces _ => ?_
      have hclosed : Similar p _ _ := ⟨alike_closed hplace pieces.alike⟩
      split
      · infer_instance
      · have hmarked : decide ((TextToken.ofToken token).token.written.head? = some 'u') =
            decide ((TextToken.ofToken other).token.written.head? = some 'u') := hplace.2
        rw [pieces.alike.2, hmarked]
        infer_instance

omit hp hr in
lemma textRule_eq : textRule sub = (do
    let found ← spanned (many1 (take .text))
    textOf sub found.1 (found.2.map TextToken.ofToken)) := rfl

instance agree_textRule : Agree p later true (textRule sub) (textRule sub') := by
  have text (twin : Twin p (Span × List Token)) : Agree p true false
      (textOf sub twin.left.1 (twin.left.2.map TextToken.ofToken))
      (textOf sub' twin.right.1 (twin.right.2.map TextToken.ofToken)) :=
    agree_textOf twin.alike.1 (forall₂_ofToken twin.alike.2)
  rw [textRule_eq, textRule_eq]
  infer_instance

end

end Grammar

end AdjointSynthesis.Code

import AdjointSynthesis.Code.Grammar.Patterns
import AdjointSynthesis.Proofs.Agreement.Expressions

/-!
# Agreement of patterns

A pattern is often built once its span is known: such builders are alike when they make alike
patterns from spans that are alike.
-/

set_option synthInstance.maxSize 1000

namespace AdjointSynthesis.Code.Grammar

open Reader

instance comparedBuilder : Compared (Span → Pattern) :=
  ⟨fun p build build' => ∀ span span', Compared.alike p span span' →
    Compared.alike p (build span) (build' span')⟩

variable {p : Pairing} {later : Bool} [hp : p.Fair] {sub sub' : Grammar} [Ready p sub sub']

/-! ## Patterns that are alike -/

section

variable {e e' : Expr} {l l' m m' : List Pattern} {name name' : Option String}

instance similar_valueBuilder [h : Similar p e e'] :
    Similar p (fun span => Pattern.value span e) (fun span => .value span e') :=
  ⟨fun _ _ hspan => congrArg₂ Pattern.value hspan h.alike⟩

instance similar_singletonBuilder {value : Constant} :
    Similar p (fun span => Pattern.singleton span value) (fun span => .singleton span value) :=
  ⟨fun _ _ hspan => congrArg (Pattern.singleton · value) hspan⟩

instance similar_sequenceBuilder [h : Similar p l l'] :
    Similar p (fun span => Pattern.sequence span l) (fun span => .sequence span l') :=
  ⟨fun _ _ hspan => congrArg₂ Pattern.sequence hspan h.seenInPatterns⟩

instance similar_mappingBuilder {k k' : List Expr} [hk : Similar p k k'] [hl : Similar p l l']
    [hn : Similar p name name'] :
    Similar p (fun span => Pattern.mapping span k l name)
      (fun span => .mapping span k' l' name') := by
  obtain rfl : name = name' := eq_of_similar_names hn.alike
  refine ⟨fun span span' hspan => ?_⟩
  have hspan : p.leftView.span span = p.rightView.span span' := hspan
  show Pattern.seen _ _ = Pattern.seen _ _
  rw [Pattern.seen, Pattern.seen, hspan, hk.seenIn, hl.seenInPatterns]

instance similar_recordBuilder {n n' : List String} [he : Similar p e e'] [hl : Similar p l l']
    [hn : Similar p n n'] [hm : Similar p m m'] :
    Similar p (fun span => Pattern.record span e l n m)
      (fun span => .record span e' l' n' m') := by
  obtain rfl : n = n' := List.forall₂_eq_eq_eq ▸ hn.alike
  refine ⟨fun span span' hspan => ?_⟩
  have hspan : p.leftView.span span = p.rightView.span span' := hspan
  show Pattern.seen _ _ = Pattern.seen _ _
  rw [Pattern.seen, Pattern.seen, hspan, he.alike, hl.seenInPatterns, hm.seenInPatterns]

instance similar_starBuilder [hn : Similar p name name'] :
    Similar p (fun span => Pattern.star span name) (fun span => .star span name') := by
  obtain rfl : name = name' := eq_of_similar_names hn.alike
  exact ⟨fun _ _ hspan => congrArg (Pattern.star · name) hspan⟩

instance similar_captureBuilder [hn : Similar p name name'] :
    Similar p (fun span => Pattern.capture span none name)
      (fun span => .capture span none name') := by
  obtain rfl : name = name' := eq_of_similar_names hn.alike
  exact ⟨fun _ _ hspan => congrArg (Pattern.capture · none name) hspan⟩

instance similar_namingBuilder {q q' : Pattern} [hq : Similar p q q'] [hn : Similar p name name'] :
    Similar p (fun span => Pattern.capture span (some q) name)
      (fun span => .capture span (some q') name') := by
  obtain rfl : name = name' := eq_of_similar_names hn.alike
  exact ⟨fun _ _ hspan => congrArg₂ (fun span q => Pattern.capture span (some q) name) hspan hq.alike⟩

end

instance agree_patternOf {r r' : Reader (Span → Pattern)} [Agree p later true r r'] :
    Agree p later true (patternOf r) (patternOf r') := by
  have built (twin : Twin p (Span × (Span → Pattern))) : Agree p true false
      (match twin.left with | (span, build) => (pure (build span) : Reader Pattern))
      (match twin.right with | (span, build) => pure (build span)) := by
    obtain ⟨⟨_, _⟩, ⟨_, _⟩, hspan, hbuild⟩ := twin
    exact agree_pure (h := ⟨hbuild _ _ hspan⟩)
  unfold patternOf
  exact agree_bind_strict

/-! ## Literals -/

instance agree_signedNumber {number number' : Reader Expr} [Agree p later true number number']
    [Agree p true true number number'] :
    Agree p later true (signedNumber number) (signedNumber number') := by
  unfold signedNumber
  infer_instance

/-- A view shows which numbers are imaginary. -/
lemma isImaginary_seen (v : View) (e : Expr) : isImaginary (e.seen v) = isImaginary e := by
  obtain ⟨span, form⟩ := e
  cases form with
  | constant value => cases value <;> rfl
  | _ => rfl

instance similar_isImaginary {e e' : Expr} [h : Similar p e e'] :
    Similar p (isImaginary e) (isImaginary e') := by
  have h : e.seen p.leftView = e'.seen p.rightView := h.alike
  refine ⟨?_⟩
  show isImaginary e = isImaginary e'
  rw [← isImaginary_seen p.leftView, h, isImaginary_seen]

instance agree_realNumber : Agree p later true realNumber realNumber := by
  unfold realNumber
  infer_instance

instance agree_imaginaryNumber : Agree p later true imaginaryNumber imaginaryNumber := by
  unfold imaginaryNumber
  infer_instance

instance agree_complexNumber : Agree p later true complexNumber complexNumber := by
  unfold complexNumber
  infer_instance

section

variable [Agree p later true (sub .text) (sub' .text)]

instance agree_literalValue : Agree p later true (literalValue sub) (literalValue sub') := by
  unfold literalValue
  infer_instance

instance agree_literalKey : Agree p later true (literalKey sub) (literalKey sub') := by
  unfold literalKey
  infer_instance

/-- A view shows constants as they are. -/
lemma eq_constant_of_seen {v : View} {form : Form} {value : Constant}
    (h : form.seen v = .constant value) : form = .constant value := by
  cases form <;> simp only [Form.seen, reduceCtorEq] at h
  exact h

instance agree_literalPattern : Agree p later true (literalPattern sub) (literalPattern sub') := by
  have singleton (twin : Twin p Form) : Agree p true false
      (match twin.left with
        | .constant value => (pure fun span => .singleton span value : Reader (Span → Pattern))
        | _ => Reader.nothing)
      (match twin.right with
        | .constant value => pure fun span => .singleton span value
        | _ => Reader.nothing) := by
    obtain ⟨left, right, h⟩ := twin
    have h : left.seen p.leftView = right.seen p.rightView := h
    by_cases hleft : ∃ value, left = .constant value
    · obtain ⟨value, rfl⟩ := hleft
      obtain rfl : right = .constant value := eq_constant_of_seen h.symm
      infer_instance
    · have hright : ¬∃ value, right = .constant value := by
        rintro ⟨value, rfl⟩
        exact hleft ⟨value, eq_constant_of_seen h⟩
      split
      · next value heq => exact absurd ⟨value, heq⟩ hleft
      · split
        · next value heq => exact absurd ⟨value, heq⟩ hright
        · exact agree_nothing.weaken
  unfold literalPattern
  infer_instance

end

/-! ## Names -/

instance agree_nameExtension : Agree p later true nameExtension nameExtension := by
  unfold nameExtension
  infer_instance

instance agree_captureName : Agree p later true captureName captureName := by
  unfold captureName
  infer_instance

instance agree_nameOrAttribute : Agree p later true nameOrAttribute nameOrAttribute := by
  unfold nameOrAttribute
  infer_instance

/-- A view shows attributes as attributes. -/
lemma exists_attribute_of_seen {v : View} {e value : Expr} {span : Span} {name : String}
    (h : e.seen v = .mk span (.attribute value name)) :
    ∃ span value, e = .mk span (.attribute value name) := by
  obtain ⟨span', form⟩ := e
  cases form <;> simp only [Expr.seen, Form.seen, Expr.mk.injEq, reduceCtorEq, and_false,
    Form.attribute.injEq] at h
  obtain ⟨-, -, rfl⟩ := h
  exact ⟨_, _, rfl⟩

instance agree_dottedValue : Agree p later true dottedValue dottedValue := by
  have dotted (twin : Twin p Expr) : Agree p true false
      (match twin.left with
        | .mk _ (.attribute _ _) => (pure twin.left : Reader Expr)
        | _ => Reader.nothing)
      (match twin.right with
        | .mk _ (.attribute _ _) => pure twin.right
        | _ => Reader.nothing) := by
    obtain ⟨left, right, h⟩ := twin
    have similar : Similar p left right := ⟨h⟩
    have h : left.seen p.leftView = right.seen p.rightView := h
    by_cases hleft : ∃ span value name, left = .mk span (.attribute value name)
    · obtain ⟨_, _, _, rfl⟩ := hleft
      obtain ⟨_, _, rfl⟩ := exists_attribute_of_seen h.symm
      exact agree_pure
    · have hright : ¬∃ span value name, right = .mk span (.attribute value name) := by
        rintro ⟨_, _, name, rfl⟩
        obtain ⟨span, value, h⟩ := exists_attribute_of_seen h
        exact hleft ⟨span, value, name, h⟩
      split
      · next span value name heq => exact absurd ⟨span, value, name, heq⟩ hleft
      · split
        · next span value name heq => exact absurd ⟨span, value, name, heq⟩ hright
        · exact agree_nothing.weaken
  unfold dottedValue
  exact agree_bind_strict

instance agree_valuePattern : Agree p later true valuePattern valuePattern := by
  unfold valuePattern
  infer_instance

instance agree_capturePattern : Agree p later true capturePattern capturePattern := by
  unfold capturePattern
  infer_instance

instance agree_wildcard : Agree p later true wildcard wildcard := by
  unfold wildcard
  infer_instance

/-! ## Patterns in brackets -/

instance agree_starPattern : Agree p later true starPattern starPattern := by
  unfold starPattern
  infer_instance

section

variable [Agree p later true (sub .pattern) (sub' .pattern)]

instance agree_sequenceItem : Agree p later true (sequenceItem sub) (sequenceItem sub') := by
  unfold sequenceItem
  infer_instance

instance agree_sequenceItems : Agree p later true (sequenceItems sub) (sequenceItems sub') := by
  unfold sequenceItems
  infer_instance

instance agree_openSequence : Agree p later true (openSequence sub) (openSequence sub') := by
  unfold openSequence
  infer_instance

end

instance agree_groupPattern : Agree p later true (groupPattern sub) (groupPattern sub') := by
  unfold groupPattern
  infer_instance

instance agree_sequencePattern :
    Agree p later true (sequencePattern sub) (sequencePattern sub') := by
  unfold sequencePattern
  infer_instance

instance agree_keyPattern [Agree p later true (sub .text) (sub' .text)] :
    Agree p later true (keyPattern sub) (keyPattern sub') := by
  unfold keyPattern
  infer_instance

instance agree_restName : Agree p later true restName restName := by
  unfold restName
  infer_instance

instance agree_mappingItems [Agree p later true (sub .text) (sub' .text)] :
    Agree p later false (mappingItems sub) (mappingItems sub') := by
  unfold mappingItems
  infer_instance

instance agree_mappingPattern : Agree p later true (mappingPattern sub) (mappingPattern sub') := by
  have closed (twin : Twin p (List (Expr × Pattern) × Option String)) : Agree p true true
      (match twin.left with
        | (items, rest) => do
          discard (mark .closeBrace)
          return fun span => Pattern.mapping span (items.map Prod.fst) (items.map Prod.snd) rest)
      (match twin.right with
        | (items, rest) => do
          discard (mark .closeBrace)
          return fun span => Pattern.mapping span (items.map Prod.fst) (items.map Prod.snd) rest) := by
    obtain ⟨⟨items, rest⟩, ⟨items', rest'⟩, hitems, hrest⟩ := twin
    have : Similar p items items' := ⟨hitems⟩
    have : Similar p rest rest' := ⟨hrest⟩
    infer_instance
  unfold mappingPattern
  infer_instance

/-! ## Records -/

instance agree_positionalPatterns [Agree p later true (sub .pattern) (sub' .pattern)] :
    Agree p later true (positionalPatterns sub) (positionalPatterns sub') := by
  unfold positionalPatterns
  infer_instance

instance agree_namedPattern : Agree p later true (namedPattern sub) (namedPattern sub') := by
  unfold namedPattern
  infer_instance

instance agree_namedPatterns : Agree p later true (namedPatterns sub) (namedPatterns sub') := by
  unfold namedPatterns
  infer_instance

instance agree_recordItems [Agree p later true (sub .pattern) (sub' .pattern)] :
    Agree p later false (recordItems sub) (recordItems sub') := by
  unfold recordItems
  infer_instance

instance agree_recordPattern : Agree p later true (recordPattern sub) (recordPattern sub') := by
  have closed {e e' : Expr} [Similar p e e'] (twin : Twin p (List Pattern × List (String × Pattern))) :
      Agree p true true
      (match twin.left with
        | (positional, named) => do
          discard (mark .closeParen)
          return fun span =>
            Pattern.record span e positional (named.map Prod.fst) (named.map Prod.snd))
      (match twin.right with
        | (positional, named) => do
          discard (mark .closeParen)
          return fun span =>
            Pattern.record span e' positional (named.map Prod.fst) (named.map Prod.snd)) := by
    obtain ⟨⟨positional, named⟩, ⟨positional', named'⟩, hpositional, hnamed⟩ := twin
    have : Similar p positional positional' := ⟨hpositional⟩
    have : Similar p named named' := ⟨hnamed⟩
    infer_instance
  unfold recordPattern
  infer_instance

/-! ## Whole patterns -/

section

variable [Agree p later true (sub .text) (sub' .text)]

instance agree_closedPattern : Agree p later true (closedPattern sub) (closedPattern sub') := by
  unfold closedPattern
  infer_instance

instance agree_choicePattern : Agree p later true (choicePattern sub) (choicePattern sub') := by
  have chosen (twin : Twin p (Span × List Pattern)) : Agree p true false
      (match twin.left with
        | (span, options) =>
          match options with
          | [single] => (pure single : Reader Pattern)
          | _ => pure (.choice span options))
      (match twin.right with
        | (span, options) =>
          match options with
          | [single] => (pure single : Reader Pattern)
          | _ => pure (.choice span options)) := by
    obtain ⟨⟨span, options⟩, ⟨span', options'⟩, hspan, hoptions⟩ := twin
    have similar : Similar p options options' := ⟨hoptions⟩
    have choice : Similar p (Pattern.choice span options) (.choice span' options') :=
      ⟨congrArg₂ Pattern.choice hspan similar.seenInPatterns⟩
    have hoptions : List.Forall₂ (Compared.alike p) options options' := hoptions
    cases hoptions with
    | nil => exact agree_pure
    | cons hfirst hrest =>
      cases hrest with
      | nil => exact agree_pure (h := ⟨hfirst⟩)
      | cons _ _ => exact agree_pure
  unfold choicePattern
  exact agree_bind_strict

instance agree_patternRule : Agree p later true (patternRule sub) (patternRule sub') := by
  unfold patternRule
  infer_instance

end

instance agree_casePattern [Agree p later true (sub .pattern) (sub' .pattern)] :
    Agree p later true (casePattern sub) (casePattern sub') := by
  unfold casePattern
  infer_instance

end AdjointSynthesis.Code.Grammar

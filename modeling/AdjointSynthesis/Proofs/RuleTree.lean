import AdjointSynthesis.Proofs.Alignment
import AdjointSynthesis.Proofs.Reading.Lines

/-!
# The tree of the adjoint rule

The adjoint rule of a block is written line by line.  As a program it is one function, and its
syntax tree is known from the split of the variables alone.

* `ruleTree`: the syntax tree of the adjoint rule, without places.
* `linesText_ruleLines`: the lines of the rule are written for its tree.
* `exists_read_adjoint`: the rule that a synthesis writes is read as its tree if no name is a
  keyword.  With a keyword it may not be read at all (`not_read_adjoint_keyword`).
-/

namespace AdjointSynthesis

open Code Code.Grammar

/-! ## The tree -/

section
variable (naming : Naming) (roles : Roles)

/-- A name as an expression. -/
def nameOf (name : String) : Expr := nameTree name.toList

/-- Names in a tuple as an expression. -/
def namesOf (names : List String) : Expr := tupleTree (names.map nameOf)

/-- A call of a name as an expression. -/
def callOf (function : String) (arguments : List Expr) : Expr :=
  callTree (nameOf function) arguments

/-- A call of a function of the array module as an expression. -/
def arrayCallOf (function : String) (arguments : List Expr) : Expr :=
  callTree (attributeTree (nameOf "np") function.toList) arguments

/-- The statement that makes a cotangent dense. -/
def densifyTree (name : String) : Stmt :=
  let gradient := nameOf (naming.gradient name)
  assignTree gradient (conditionalTree (callOf "isinstance" [gradient, nameOf "Fill"])
    (arrayCallOf "array" [gradient]) gradient)

/-- The statement that puts zeros in place of a missing cotangent. -/
def noGradientTree (name : String) : Stmt :=
  let gradient := nameOf (naming.gradient name)
  assignTree gradient (conditionalTree (sameTree gradient absentTree)
    (arrayCallOf "zeros_like" [nameOf name]) gradient)

/-- The annotated argument of the engine for a variable. -/
def engineArgumentTree (name : String) : Expr :=
  let argument := engineListed naming roles name
  callOf argument.name (argument.items.map nameOf)

/-- The call of the engine: the in-place form and its activity, then an argument for each input. -/
def engineCall : Expr :=
  callOf "autodiff"
    (nameOf naming.inplace :: nameOf "Const" :: roles.inputs.map (engineArgumentTree naming roles))

/-- The statement that calls the engine. -/
def engineTree : Stmt :=
  if roles.active = [] then expressionTree (engineCall naming roles)
  else assignTree (namesOf (roles.active.map naming.gradient)) (engineCall naming roles)

/-- What the rule returns for a variable. -/
def slotTree (name : String) : Expr :=
  if name ∈ roles.constant then numberTree "0.0".toList else nameOf (naming.gradient name)

/-- The statements of the function from cotangents to gradients. -/
def backwardBody : List Stmt :=
  assignTree (namesOf (roles.mutated.map naming.gradient)) (nameOf naming.cotangent) ::
    (roles.mutated.map (densifyTree naming) ++ (roles.mutated.map (noGradientTree naming) ++
      [engineTree naming roles, returnTree (tupleTree (roles.inputs.map (slotTree naming roles)))]))

/-- A function whose parameters are names. -/
def functionOf (name : String) (parameters : List String) (body : List Stmt)
    (decoration : List Expr) : Stmt :=
  functionTree name.toList (parameters.map String.toList) body decoration

/-- The function from cotangents to gradients. -/
def backwardTree : Stmt :=
  functionOf naming.backward [naming.cotangent] (backwardBody naming roles) []

/-- The adjoint rule as a syntax tree. -/
def ruleTree : Stmt :=
  functionOf naming.plain roles.inputs
    [expressionTree (callOf naming.inplace (roles.inputs.map nameOf)), backwardTree naming roles,
      returnTree (tupleTree [namesOf roles.mutated, nameOf naming.backward])]
    [nameOf "adjoint"]

end

/-! ## Names that are no reserved words -/

/-- Whether the names beside some inputs, the inputs and their gradients are identifiers that are no
reserved words. -/
structure Naming.Unreserved (naming : Naming) (names : List String) : Prop where
  plain : IsUnreserved naming.plain.toList
  inplace : IsUnreserved naming.inplace.toList
  backward : IsUnreserved naming.backward.toList
  cotangent : IsUnreserved naming.cotangent.toList
  inputs : ∀ name ∈ names, IsUnreserved name.toList
  gradients : ∀ name ∈ names, IsUnreserved (naming.gradient name).toList

/-- The names of the dialect are no reserved words. -/
lemma isUnreserved_dialect : ∀ word ∈ ["adjoint", "autodiff", "Duplicated", "Active", "Const", "np",
    "array", "zeros_like", "isinstance", "Fill"], IsUnreserved word.toList := by
  have hall : ∀ word ∈ ["adjoint", "autodiff", "Duplicated", "Active", "Const", "np", "array",
      "zeros_like", "isinstance", "Fill"],
      Text.isIdentifier word.toList = true ∧ wordKind word.toList = .name := by decide +kernel
  exact fun word hword => ⟨(hall word hword).1, (hall word hword).2⟩

/-! ## Texts as lists of characters -/

lemma toList_intercalate (first : String) (rest : List String) :
    (", ".intercalate (first :: rest)).toList =
      first.toList ++ behindCommasText (rest.map String.toList) := by
  induction rest generalizing first with
  | nil =>
    rw [String.intercalate_singleton, List.map_nil, behindCommasText, List.flatMap_nil,
      List.append_nil]
  | cons second rest ih =>
    rw [String.intercalate_cons_cons, String.toList_append, String.toList_append, ih]
    simp [behindCommasText]

lemma toList_signature (name first : String) (rest : List String) :
    (signature name (first :: rest)).toList =
      name.toList ++ bracketedText first.toList (rest.map String.toList) false := by
  simp only [signature, String.toList_append, toList_intercalate, bracketedText, trailingText]
  simp

lemma toList_tupleText_cons (first : String) (rest : List String) :
    (tupleText (first :: rest)).toList = tupleOf first.toList (rest.map String.toList) := by
  rw [toList_tupleText]
  cases rest with
  | nil => simp [tupleInside, tupleOf, bracketedText, behindCommasText, trailingText]
  | cons second rest =>
    simp only [tupleInside, toList_intercalate, tupleOf, bracketedText, trailingText]
    simp

lemma toList_head (name first : String) (rest : List String) :
    ("def " ++ signature name (first :: rest) ++ ":").toList =
      headText name.toList first.toList (rest.map String.toList) := by
  simp [headText, toList_signature]

/-! ## The statements -/

section
variable {naming : Naming} {roles : Roles} {levels : Nat}

lemma bracketsText_names (first : String) (rest : List String) (trailing : Bool)
    (hfirst : IsUnreserved first.toList) (hrest : ∀ name ∈ rest, IsUnreserved name.toList) :
    BracketsText 1 (bracketedText first.toList (rest.map String.toList) trailing) (nameOf first)
      (rest.map nameOf) trailing := by
  have h := bracketsText (first.toList, nameOf first)
    (rest.map fun name => (name.toList, nameOf name)) trailing (hfirst.operand 0).expression
    (fun item hitem => by
      obtain ⟨name, hname, rfl⟩ := List.mem_map.mp hitem
      exact ((hrest name hname).operand 0).expression)
  rw [List.map_map, List.map_map] at h
  exact h

/-- The line that makes a cotangent dense. -/
lemma statementText_densify {name : String} (h : IsUnreserved (naming.gradient name).toList) :
    StatementText 1 (densifyText naming name).toList (densifyTree naming name) := by
  have hfill := isUnreserved_dialect "Fill" (by decide)
  have condition := (bracketsText_names _ ["Fill"] false h (by simpa using hfill)).call
    (isUnreserved_dialect "isinstance" (by decide))
  have value := valueText_conditional (isUnreserved_dialect "np" (by decide))
    (isUnreserved_dialect "array" (by decide)) (by rintro c ⟨⟩; decide)
    (bracketsText_names _ [] false h nofun) condition.condition (h.operand 1).expression
  have htext : (densifyText naming name).toList = assignText (naming.gradient name).toList
      (conditionalText
        ("np".toList ++ '.' :: "array".toList ++
          bracketedText (naming.gradient name).toList [] false)
        ("isinstance".toList ++ bracketedText (naming.gradient name).toList ["Fill".toList] false)
        (naming.gradient name).toList) := by
    simp [densifyText, assignText, conditionalText, bracketedText, behindCommasText, trailingText]
  rw [htext]
  exact statementText_assign (h.target 1) value

/-- The line that puts zeros in place of a missing cotangent. -/
lemma statementText_noGradient {name : String} (h : IsUnreserved (naming.gradient name).toList)
    (hname : IsUnreserved name.toList) :
    StatementText 1 (noGradientText naming name).toList (noGradientTree naming name) := by
  have value := valueText_conditional (isUnreserved_dialect "np" (by decide))
    (isUnreserved_dialect "zeros_like" (by decide)) (by rintro c ⟨⟩; decide)
    (bracketsText_names _ [] false hname nofun)
    (conditionText_same (h.operand 1) (operandText_absent 1)) (h.operand 1).expression
  have htext : (noGradientText naming name).toList = assignText (naming.gradient name).toList
      (conditionalText
        ("np".toList ++ '.' :: "zeros_like".toList ++ bracketedText name.toList [] false)
        (sameText (naming.gradient name).toList "None".toList) (naming.gradient name).toList) := by
    simp [noGradientText, assignText, conditionalText, sameText, bracketedText, behindCommasText,
      trailingText]
  rw [htext]
  exact statementText_assign (h.target 1) value

lemma operandText_names {names : List String} (hne : names ≠ [])
    (h : ∀ name ∈ names, IsUnreserved name.toList) :
    OperandText 1 (tupleText names).toList (namesOf names) := by
  obtain ⟨first, rest, rfl⟩ := List.exists_cons_of_ne_nil hne
  have tuple := operandText_tuple (first.toList, nameOf first)
    (rest.map fun name => (name.toList, nameOf name))
    ((h first List.mem_cons_self).operand 0).expression
    (fun item hitem => by
      obtain ⟨name, hname, rfl⟩ := List.mem_map.mp hitem
      exact ((h name (List.mem_cons_of_mem _ hname)).operand 0).expression)
  rw [List.map_map, List.map_map] at tuple
  rw [toList_tupleText_cons]
  exact tuple

lemma targetText_tuple {names : List String} (hne : names ≠ [])
    (h : ∀ name ∈ names, IsUnreserved name.toList) :
    TargetText 1 (tupleText names).toList (namesOf names) := by
  obtain ⟨first, rest, rfl⟩ := List.exists_cons_of_ne_nil hne
  have hrest : ∀ written ∈ rest.map String.toList, IsUnreserved written := by
    intro written hwritten
    obtain ⟨name, hname, rfl⟩ := List.mem_map.mp hwritten
    exact h name (List.mem_cons_of_mem _ hname)
  have target := targetText_names (h first List.mem_cons_self) hrest
  rw [toList_tupleText_cons]
  rwa [nameTupleTree, List.map_map, List.map_map] at target

lemma expressionText_slot (hnames : naming.Unreserved roles.inputs) {name : String}
    (hname : name ∈ roles.inputs) :
    ExpressionText 0 (slot naming roles name).toList (slotTree naming roles name) := by
  unfold slot slotTree
  split
  · exact (operandText_zero 0).expression
  · exact ((hnames.gradients name hname).operand 0).expression

lemma operandText_slots (hnames : naming.Unreserved roles.inputs) (hne : roles.inputs ≠ []) :
    OperandText 1 (tupleText (roles.inputs.map (slot naming roles))).toList
      (tupleTree (roles.inputs.map (slotTree naming roles))) := by
  have hslot (name : String) (hname : name ∈ roles.inputs) :
      ExpressionText 0 (slot naming roles name).toList (slotTree naming roles name) :=
    expressionText_slot hnames hname
  generalize roles.inputs = inputs at hne hslot
  obtain ⟨first, rest, rfl⟩ := List.exists_cons_of_ne_nil hne
  have tuple := operandText_tuple ((slot naming roles first).toList, slotTree naming roles first)
    (rest.map fun name => ((slot naming roles name).toList, slotTree naming roles name))
    (hslot first List.mem_cons_self)
    (fun item hitem => by
      obtain ⟨name, hname, rfl⟩ := List.mem_map.mp hitem
      exact hslot name (List.mem_cons_of_mem _ hname))
  rw [List.map_map, List.map_map] at tuple
  rw [List.map_cons, toList_tupleText_cons, List.map_map]
  exact tuple

/-- An argument of the engine and its annotation. -/
lemma operandText_engineArgument (hnames : naming.Unreserved roles.inputs) {name : String}
    (hname : name ∈ roles.inputs) :
    OperandText 1 (signature (engineListed naming roles name).name
      (engineListed naming roles name).items).toList (engineArgumentTree naming roles name) := by
  have annotated {word first : String} {rest : List String} (hword : IsUnreserved word.toList)
      (hfirst : IsUnreserved first.toList) (hrest : ∀ name ∈ rest, IsUnreserved name.toList) :
      OperandText 1 (signature word (first :: rest)).toList
        (callOf word ((first :: rest).map nameOf)) := by
    rw [toList_signature]
    exact (bracketsText_names first rest false hfirst hrest).call hword
  unfold engineArgumentTree engineListed
  dsimp only
  split_ifs with hmutated hconstant
  · exact annotated (isUnreserved_dialect "Duplicated" (by decide)) (hnames.inputs name hname)
      (by simpa using hnames.gradients name hname)
  · exact annotated (isUnreserved_dialect "Const" (by decide)) (hnames.inputs name hname) nofun
  · exact annotated (isUnreserved_dialect "Active" (by decide)) (hnames.inputs name hname) nofun

/-- The arguments of the engine: the in-place form and its activity, then one for each input. -/
def engineTexts (naming : Naming) (roles : Roles) : List (List Char) :=
  naming.inplace.toList :: "Const".toList :: roles.inputs.map fun name =>
    let argument := engineListed naming roles name
    (signature argument.name argument.items).toList

lemma bracketsText_engine (hnames : naming.Unreserved roles.inputs) {inner outer : List Char}
    (hinner : ∀ c ∈ inner, Text.isMarginal c = true)
    (houter : ∀ c ∈ outer, Text.isMarginal c = true) :
    BracketsText 2 (linedText inner outer (engineTexts naming roles)) (nameOf naming.inplace)
      (nameOf "Const" :: roles.inputs.map (engineArgumentTree naming roles)) true := by
  have hconst := isUnreserved_dialect "Const" (by decide)
  have h := bracketsText_lined hinner houter (naming.inplace.toList, nameOf naming.inplace)
    (("Const".toList, nameOf "Const") :: roles.inputs.map fun name =>
      let argument := engineListed naming roles name
      ((signature argument.name argument.items).toList, engineArgumentTree naming roles name))
    (by
      rintro item (_ | ⟨_, _ | ⟨_, hitem⟩⟩)
      · exact (hnames.inplace.operand 1).expression
      · exact (hconst.operand 1).expression
      · obtain ⟨name, hname, rfl⟩ := List.mem_map.mp hitem
        exact (operandText_engineArgument hnames hname).expression)
    (by
      rintro item (_ | ⟨_, _ | ⟨_, hitem⟩⟩) behind
      · exact hnames.inplace.isPlainStart
      · exact hconst.isPlainStart
      · obtain ⟨name, hname, rfl⟩ := List.mem_map.mp hitem
        have hword : IsUnreserved (engineListed naming roles name).name.toList := by
          unfold engineListed
          split_ifs
          · exact isUnreserved_dialect "Duplicated" (by decide)
          · exact hconst
          · exact isUnreserved_dialect "Active" (by decide)
        simp only [signature, String.append_assoc]
        exact hword.isPlainStart_toList)
  rw [List.map_cons, List.map_cons, List.map_map, List.map_cons, List.map_map] at h
  exact h

/-- The statement that calls the engine, on several lines. -/
def engineLines (naming : Naming) (roles : Roles) (inner outer : List Char) : List Char :=
  (engineText (roles.active.map naming.gradient)).toList ++
    (linesInside inner (engineTexts naming roles) ++ '\n' :: (outer ++ [')']))

lemma statementText_engine (hnames : naming.Unreserved roles.inputs)
    (hactive : ∀ name ∈ roles.active, name ∈ roles.inputs) {inner outer : List Char}
    (hinner : ∀ c ∈ inner, Text.isMarginal c = true)
    (houter : ∀ c ∈ outer, Text.isMarginal c = true) :
    StatementText 2 (engineLines naming roles inner outer) (engineTree naming roles) := by
  have brackets := bracketsText_engine hnames hinner houter
  have hautodiff := isUnreserved_dialect "autodiff" (by decide)
  unfold engineLines engineText engineTree
  by_cases hnone : roles.active = []
  · have call := brackets.callStatement hautodiff
    rw [if_pos hnone, if_pos (List.map_eq_nil_iff.mpr hnone)]
    exact call
  · have hgradients :
        ∀ gradient ∈ roles.active.map naming.gradient, IsUnreserved gradient.toList := by
      intro gradient hgradient
      obtain ⟨name, hname, rfl⟩ := List.mem_map.mp hgradient
      exact hnames.gradients name (hactive name hname)
    have target := targetText_tuple (fun hnil => hnone (List.map_eq_nil_iff.mp hnil)) hgradients
    have statement := statementText_assign (target.mono (Nat.le_succ 1))
      (brackets.callValue hautodiff)
    have htext : (tupleText (roles.active.map naming.gradient) ++ " = autodiff(").toList ++
        (linesInside inner (engineTexts naming roles) ++ '\n' :: (outer ++ [')'])) =
          assignText (tupleText (roles.active.map naming.gradient)).toList
            ("autodiff".toList ++ linedText inner outer (engineTexts naming roles)) := by
      simp [assignText, linedText]
    rw [if_neg hnone, if_neg fun hnil => hnone (List.map_eq_nil_iff.mp hnil), htext]
    exact statement

/-- The statements of the function from cotangents to gradients, with their texts. -/
def backwardItems (naming : Naming) (roles : Roles) (inner outer : List Char) :
    List (List Char × Stmt) :=
  ((tupleText (roles.mutated.map naming.gradient) ++ " = " ++ naming.cotangent).toList,
      assignTree (namesOf (roles.mutated.map naming.gradient)) (nameOf naming.cotangent)) ::
    ((roles.mutated.map fun name => ((densifyText naming name).toList, densifyTree naming name)) ++
      ((roles.mutated.map fun name =>
          ((noGradientText naming name).toList, noGradientTree naming name)) ++
        [(engineLines naming roles inner outer, engineTree naming roles),
          (("return " ++ tupleText (roles.inputs.map (slot naming roles))).toList,
            returnTree (tupleTree (roles.inputs.map (slotTree naming roles))))]))

lemma map_backwardItems (naming : Naming) (roles : Roles) (inner outer : List Char) :
    (backwardItems naming roles inner outer).map Prod.snd = backwardBody naming roles := by
  simp [backwardItems, backwardBody, Function.comp_def]

lemma backwardItems_ne_nil (naming : Naming) (roles : Roles) (inner outer : List Char) :
    backwardItems naming roles inner outer ≠ [] := List.cons_ne_nil _ _

lemma isPlainStart_tupleText (items : List String) (rest : List Char) :
    IsPlainStart ((tupleText items).toList ++ rest) := by
  rw [toList_tupleText]
  exact isPlainStart_cons (by decide)

/-- The line that takes the cotangents apart. -/
lemma lineText_cotangents (hcotangent : IsUnreserved naming.cotangent.toList)
    (hne : roles.mutated ≠ [])
    (hgradients : ∀ name ∈ roles.mutated, IsUnreserved (naming.gradient name).toList) :
    LineText 2 (tupleText (roles.mutated.map naming.gradient) ++ " = " ++ naming.cotangent).toList
      (assignTree (namesOf (roles.mutated.map naming.gradient)) (nameOf naming.cotangent)) := by
  have hall : ∀ gradient ∈ roles.mutated.map naming.gradient, IsUnreserved gradient.toList := by
    intro gradient hgradient
    obtain ⟨name, hname, rfl⟩ := List.mem_map.mp hgradient
    exact hgradients name hname
  have target := targetText_tuple (fun hnil => hne (List.map_eq_nil_iff.mp hnil)) hall
  have statement := statementText_assign target (hcotangent.value 1)
  have htext : (tupleText (roles.mutated.map naming.gradient) ++ " = " ++ naming.cotangent).toList =
      assignText (tupleText (roles.mutated.map naming.gradient)).toList
        naming.cotangent.toList := by
    simp [assignText]
  refine ⟨?_, fun rest => ?_⟩
  · rw [htext]
    exact statement.mono (Nat.le_succ 1)
  · rw [String.append_assoc, String.toList_append, List.append_assoc]
    exact isPlainStart_tupleText _ _

lemma lineText_densify {name : String} (h : IsUnreserved (naming.gradient name).toList) :
    LineText 2 (densifyText naming name).toList (densifyTree naming name) := by
  refine ⟨(statementText_densify h).mono (Nat.le_succ 1), fun rest => ?_⟩
  simp only [densifyText, String.append_assoc]
  exact h.isPlainStart_toList

lemma lineText_noGradient {name : String} (h : IsUnreserved (naming.gradient name).toList)
    (hname : IsUnreserved name.toList) :
    LineText 2 (noGradientText naming name).toList (noGradientTree naming name) := by
  refine ⟨(statementText_noGradient h hname).mono (Nat.le_succ 1), fun rest => ?_⟩
  simp only [noGradientText, String.append_assoc]
  exact h.isPlainStart_toList

lemma lineText_engine (hnames : naming.Unreserved roles.inputs)
    (hactive : ∀ name ∈ roles.active, name ∈ roles.inputs) {inner outer : List Char}
    (hinner : ∀ c ∈ inner, Text.isMarginal c = true)
    (houter : ∀ c ∈ outer, Text.isMarginal c = true) :
    LineText 2 (engineLines naming roles inner outer) (engineTree naming roles) := by
  refine ⟨statementText_engine hnames hactive hinner houter, fun rest => ?_⟩
  unfold engineLines engineText
  split_ifs
  · exact isPlainStart_cons (by decide)
  · rw [String.toList_append, List.append_assoc, List.append_assoc]
    exact isPlainStart_tupleText _ _

/-- The line that returns the gradients. -/
lemma lineText_slots (hnames : naming.Unreserved roles.inputs) (hne : roles.inputs ≠ []) :
    LineText 2 ("return " ++ tupleText (roles.inputs.map (slot naming roles))).toList
      (returnTree (tupleTree (roles.inputs.map (slotTree naming roles)))) := by
  have statement := statementText_return (operandText_slots hnames hne).expression
  have htext : ("return " ++ tupleText (roles.inputs.map (slot naming roles))).toList =
      returnText (tupleText (roles.inputs.map (slot naming roles))).toList := by
    simp [returnText_eq]
  rw [htext]
  exact ⟨statement.mono (Nat.le_succ 1), fun rest => isPlainStart_cons (by decide)⟩

lemma lineText_backwardItems (hnames : naming.Unreserved roles.inputs)
    (hmutated : ∀ name ∈ roles.mutated, name ∈ roles.inputs)
    (hactive : ∀ name ∈ roles.active, name ∈ roles.inputs) (hne : roles.mutated ≠ [])
    {inner outer : List Char} (hinner : ∀ c ∈ inner, Text.isMarginal c = true)
    (houter : ∀ c ∈ outer, Text.isMarginal c = true) :
    ∀ item ∈ backwardItems naming roles inner outer, LineText 2 item.1 item.2 := by
  have hgradients (name : String) (hname : name ∈ roles.mutated) :
      IsUnreserved (naming.gradient name).toList := hnames.gradients name (hmutated name hname)
  have hinputs : roles.inputs ≠ [] := by
    obtain ⟨name, hname⟩ := List.exists_mem_of_ne_nil _ hne
    exact List.ne_nil_of_mem (hmutated name hname)
  simp only [backwardItems, List.mem_cons, List.mem_append, List.mem_map, List.not_mem_nil,
    or_false]
  rintro item (rfl | ⟨name, hname, rfl⟩ | ⟨name, hname, rfl⟩ | rfl | rfl)
  · exact lineText_cotangents hnames.cotangent hne hgradients
  · exact lineText_densify (hgradients name hname)
  · exact lineText_noGradient (hgradients name hname) (hnames.inputs name (hmutated name hname))
  · exact lineText_engine hnames hactive hinner houter
  · exact lineText_slots hnames hinputs

end

/-! ## The lines -/

section
variable {naming : Naming} {roles : Roles} {settings : Settings}

/-- The lines of the function from cotangents to gradients. -/
def backwardLines (naming : Naming) (roles : Roles) (indent : List Char) : List Char :=
  (backwardItems naming roles (marginAt indent 3) (marginAt indent 2)).flatMap fun item =>
    marginAt indent 2 ++ (item.1 ++ ['\n'])

/-- The lines below the head of an adjoint rule. -/
def ruleInside (naming : Naming) (roles : Roles) (indent : List Char) : List Char :=
  (marginAt indent 1 ++ ((signature naming.inplace roles.inputs).toList ++ ['\n']) ++ ['\n']) ++
    (marginAt indent 1 ++ (("def " ++ signature naming.backward [naming.cotangent] ++ ":").toList ++
      '\n' :: backwardLines naming roles indent) ++ ['\n']) ++
    (marginAt indent 1 ++
      (("return " ++ tupleText roles.mutated ++ ", " ++ naming.backward).toList ++ ['\n']))

/-- The lines of an adjoint rule. -/
def ruleLines (naming : Naming) (roles : Roles) (indent : List Char) : List Char :=
  marginAt indent 0 ++ ('@' :: "adjoint".toList ++ '\n' :: (marginAt indent 0 ++
    (("def " ++ signature naming.plain roles.inputs ++ ":").toList ++
      '\n' :: ruleInside naming roles indent)))

lemma linesInside_append (inner : List Char) (texts : List (List Char)) (rest : List Char) :
    linesInside inner texts ++ '\n' :: rest =
      '\n' :: ((texts.flatMap fun text => inner ++ (text ++ [',', '\n'])) ++ rest) := by
  induction texts with
  | nil => rfl
  | cons text texts ih =>
    rw [linesInside, List.flatMap_cons, List.append_assoc, ← linesInside, ih]
    simp

/-- Lines at their depths, each with its newline. -/
def writtenLines (settings : Settings) (texts : List (Nat × String)) : List Char :=
  Text.endLines (texts.map fun text => lineAt settings text.1 text.2)

lemma writtenLines_nil : writtenLines settings [] = [] := rfl

lemma writtenLines_append (texts more : List (Nat × String)) :
    writtenLines settings (texts ++ more) =
      writtenLines settings texts ++ writtenLines settings more := by
  rw [writtenLines, List.map_append, Text.endLines, List.flatMap_append]
  rfl

lemma writtenLines_empty (rest : List (Nat × String)) :
    writtenLines settings ((0, "") :: rest) = '\n' :: writtenLines settings rest := rfl

lemma writtenLines_cons {text : String} (h : text ≠ "") (depth : Nat) (rest : List (Nat × String)) :
    writtenLines settings ((depth, text) :: rest) =
      marginAt settings.indent.toList depth ++
        (text.toList ++ '\n' :: writtenLines settings rest) := by
  have hline : lineAt settings depth text = marginAt settings.indent.toList depth ++ text.toList :=
    if_neg h
  rw [writtenLines, List.map_cons, hline, Text.endLines, List.flatMap_cons, List.append_assoc,
    List.append_assoc]
  rfl

lemma writtenLines_map {text : String → String} (h : ∀ name, text name ≠ "") (depth : Nat)
    (names : List String) :
    writtenLines settings (names.map fun name => (depth, text name)) =
      names.flatMap fun name =>
        marginAt settings.indent.toList depth ++ ((text name).toList ++ ['\n']) := by
  induction names with
  | nil => rfl
  | cons name names ih =>
    rw [List.map_cons, writtenLines_cons (h name), ih, List.flatMap_cons, List.append_assoc,
      List.append_assoc, List.singleton_append]

/-- The lines of the statement that calls the engine. -/
lemma writtenLines_engine (rest : List (Nat × String)) :
    writtenLines settings
        ([(2, engineText (roles.active.map naming.gradient)), (3, naming.inplace ++ ","),
            (3, "Const,")] ++
          (roles.inputs.map fun name =>
            let argument := engineListed naming roles name
            (3, signature argument.name argument.items ++ ",")) ++ (2, ")") :: rest) =
      marginAt settings.indent.toList 2 ++
        (engineLines naming roles (marginAt settings.indent.toList 3)
          (marginAt settings.indent.toList 2) ++ '\n' :: writtenLines settings rest) := by
  have hengine : engineText (roles.active.map naming.gradient) ≠ "" := by
    unfold engineText
    split <;> simp
  have hargument (name : String) : signature (engineListed naming roles name).name
      (engineListed naming roles name).items ++ "," ≠ "" := by simp
  have hinplace : naming.inplace ++ "," ≠ "" := by simp
  have hconst : "Const," ≠ "" := by decide
  have hclose : ")" ≠ "" := by decide
  dsimp only
  rw [writtenLines_append, writtenLines_append, writtenLines_map hargument, writtenLines_cons hengine,
    writtenLines_cons hinplace, writtenLines_cons hconst, writtenLines_cons hclose,
    writtenLines_nil, engineLines, List.append_assoc, linesInside_append]
  simp [engineTexts, List.flatMap_map]

/-- The lines of the function from cotangents to gradients, below its head. -/
lemma writtenLines_backward (rest : List (Nat × String)) :
    writtenLines settings
        ((2, tupleText (roles.mutated.map naming.gradient) ++ " = " ++ naming.cotangent) ::
          ((roles.mutated.map fun name => (2, densifyText naming name)) ++
            ((roles.mutated.map fun name => (2, noGradientText naming name)) ++
              ([(2, engineText (roles.active.map naming.gradient)), (3, naming.inplace ++ ","),
                  (3, "Const,")] ++
                (roles.inputs.map fun name =>
                  let argument := engineListed naming roles name
                  (3, signature argument.name argument.items ++ ",")) ++ (2, ")") ::
                (2, "return " ++ tupleText (roles.inputs.map (slot naming roles))) :: rest)))) =
      backwardLines naming roles settings.indent.toList ++ writtenLines settings rest := by
  have hdensify (name : String) : densifyText naming name ≠ "" := by simp [densifyText]
  have hnoGradient (name : String) : noGradientText naming name ≠ "" := by simp [noGradientText]
  have hcotangents :
      tupleText (roles.mutated.map naming.gradient) ++ " = " ++ naming.cotangent ≠ "" := by simp
  have hreturn : "return " ++ tupleText (roles.inputs.map (slot naming roles)) ≠ "" := by simp
  rw [writtenLines_cons hcotangents, writtenLines_append, writtenLines_append,
    writtenLines_map hdensify, writtenLines_map hnoGradient, writtenLines_engine,
    writtenLines_cons hreturn]
  simp [backwardLines, backwardItems, List.flatMap_map]

lemma ofLines_ruleTexts :
    ofLines ((ruleTexts naming roles).map fun text => lineAt settings text.1 text.2) =
      ruleLines naming roles settings.indent.toList := by
  have hdefinition : "def " ++ signature naming.plain roles.inputs ++ ":" ≠ "" := by simp
  have hforwards := ne_empty_signature naming.inplace roles.inputs
  have hback : "def " ++ signature naming.backward [naming.cotangent] ++ ":" ≠ "" := by simp
  have hreturn : "return " ++ tupleText roles.mutated ++ ", " ++ naming.backward ≠ "" := by simp
  have backward := @writtenLines_backward naming roles settings
    [(0, ""), (1, "return " ++ tupleText roles.mutated ++ ", " ++ naming.backward)]
  simp only [List.cons_append, List.nil_append] at backward
  rw [ofLines_eq_endLines (by simp [ruleTexts]), ← writtenLines, ruleTexts]
  simp only [List.append_assoc, List.cons_append, List.nil_append]
  rw [writtenLines_cons (by decide), writtenLines_cons hdefinition, writtenLines_cons hforwards,
    writtenLines_empty, writtenLines_cons hback, backward, writtenLines_empty,
    writtenLines_cons hreturn, writtenLines_nil]
  simp [ruleLines, ruleInside]

lemma linesText_ruleInside (hsettings : settings.Standard) (hindent : settings.indent.toList ≠ [])
    (hnames : naming.Unreserved roles.inputs)
    (hmutated : ∀ name ∈ roles.mutated, name ∈ roles.inputs)
    (hactive : ∀ name ∈ roles.active, name ∈ roles.inputs) (hne : roles.mutated ≠ []) :
    LinesText settings.indent.toList 1 (ruleInside naming roles settings.indent.toList)
      [expressionTree (callOf naming.inplace (roles.inputs.map nameOf)), backwardTree naming roles,
        returnTree (tupleTree [namesOf roles.mutated, nameOf naming.backward])] := by
  have hmargin (depth : Nat) :
      ∀ c ∈ marginAt settings.indent.toList depth, Text.isMarginal c = true :=
    isMargin_indentation hsettings depth
  have hinputs : roles.inputs ≠ [] := by
    obtain ⟨name, hname⟩ := List.exists_mem_of_ne_nil _ hne
    exact List.ne_nil_of_mem (hmutated name hname)
  -- the in-place form is run on the inputs
  have forwards : LineText 1 (signature naming.inplace roles.inputs).toList
      (expressionTree (callOf naming.inplace (roles.inputs.map nameOf))) := by
    have hall := hnames.inputs
    generalize roles.inputs = inputs at hinputs hall
    obtain ⟨first, rest, rfl⟩ := List.exists_cons_of_ne_nil hinputs
    rw [toList_signature]
    refine ⟨?_, fun behind => ?_⟩
    · exact (bracketsText_names first rest false (hall first List.mem_cons_self)
        fun name hname => hall name (List.mem_cons_of_mem _ hname)).callStatement hnames.inplace
    · rw [List.append_assoc]
      exact hnames.inplace.isPlainStart
  -- the function from cotangents to gradients
  have inner := linesText_statements hindent hsettings.margin 2 (by decide)
    (backwardItems_ne_nil naming roles _ _)
    (lineText_backwardItems hnames hmutated hactive hne (hmargin 3) (hmargin 2)) (by decide)
  rw [map_backwardItems] at inner
  have hbody : backwardBody naming roles ≠ [] := List.cons_ne_nil _ _
  have backward := linesText_function hindent hsettings.margin [] hnames.backward hnames.cotangent
    nofun hbody inner
  -- what the rule returns
  have returned : LineText 1
      ("return " ++ tupleText roles.mutated ++ ", " ++ naming.backward).toList
      (returnTree (tupleTree [namesOf roles.mutated, nameOf naming.backward])) := by
    have htext : ("return " ++ tupleText roles.mutated ++ ", " ++ naming.backward).toList =
        returnPairText (tupleText roles.mutated).toList naming.backward.toList := by
      simp [returnPairText, returnText_eq]
    rw [htext]
    have values := operandText_names hne fun name hname => hnames.inputs name (hmutated name hname)
    exact ⟨statementText_returnPair values.expression (hnames.backward.operand 1).expression,
      fun rest => isPlainStart_cons (by decide)⟩
  have first := linesText_statement hindent hsettings.margin 1 (by decide) forwards (by decide)
  have last := linesText_statement hindent hsettings.margin 1 (by decide) returned (by decide)
  have lines := (first.emptyLine.append backward.emptyLine).append last
  unfold ruleInside
  rw [toList_head]
  exact lines

/-- The lines of an adjoint rule are written for its tree. -/
lemma linesText_ruleLines (hsettings : settings.Standard) (hindent : settings.indent.toList ≠ [])
    (hnames : naming.Unreserved roles.inputs)
    (hmutated : ∀ name ∈ roles.mutated, name ∈ roles.inputs)
    (hactive : ∀ name ∈ roles.active, name ∈ roles.inputs) (hne : roles.mutated ≠ []) :
    LinesText settings.indent.toList 0 (ruleLines naming roles settings.indent.toList)
      [ruleTree naming roles] := by
  have inside := linesText_ruleInside hsettings hindent hnames hmutated hactive hne
  have hinputs : roles.inputs ≠ [] := by
    obtain ⟨name, hname⟩ := List.exists_mem_of_ne_nil _ hne
    exact List.ne_nil_of_mem (hmutated name hname)
  obtain ⟨first, rest, heq⟩ := List.exists_cons_of_ne_nil hinputs
  have hall := hnames.inputs
  rw [heq] at hall
  have decorated := linesText_decorated hindent hsettings.margin (rest.map String.toList)
    (isUnreserved_dialect "adjoint" (by decide)) hnames.plain (hall first List.mem_cons_self)
    (fun written hwritten => by
      obtain ⟨name, hname, rfl⟩ := List.mem_map.mp hwritten
      exact hall name (List.mem_cons_of_mem _ hname))
    (List.cons_ne_nil _ _) inside
  rw [ruleLines, ruleTree, functionOf, heq, toList_head, List.map_cons, ← heq]
  exact decorated

end

/-! ## Carriage returns -/

section
variable {naming : Naming} {roles : Roles} {items : List String}

lemma not_mem_signature (name : String) (items : List String) (hname : '\r' ∉ name.toList)
    (hitems : ∀ item ∈ items, '\r' ∉ item.toList) : '\r' ∉ (signature name items).toList := by
  intro hmem
  rcases mem_of_mem_signature hmem with hmem | hmem | ⟨item, hitem, hmem⟩
  · exact absurd hmem (by decide)
  · exact hname hmem
  · exact hitems item hitem hmem

lemma not_mem_tupleText (hitems : ∀ item ∈ items, '\r' ∉ item.toList) :
    '\r' ∉ (tupleText items).toList := by
  intro hmem
  rcases mem_of_mem_tupleText hmem with hmem | ⟨item, hitem, hmem⟩
  · exact absurd hmem (by decide)
  · exact hitems item hitem hmem

/-- No line of an adjoint rule holds a carriage return. -/
lemma not_mem_ruleTexts (hnames : naming.Unreserved roles.inputs)
    (hmutated : ∀ name ∈ roles.mutated, name ∈ roles.inputs)
    (hactive : ∀ name ∈ roles.active, name ∈ roles.inputs) :
    ∀ text ∈ ruleTexts naming roles, '\r' ∉ text.2.toList := by
  have hword {written : List Char} (h : IsUnreserved written) : '\r' ∉ written := by
    intro hmem
    cases (isWord_iff.mp (isWord_of_isIdentifier h.isIdentifier)).2 _ hmem
  have hinput (name : String) (hname : name ∈ roles.inputs) : '\r' ∉ name.toList :=
    hword (hnames.inputs name hname)
  have hgradient (name : String) (hname : name ∈ roles.inputs) :
      '\r' ∉ (naming.gradient name).toList := hword (hnames.gradients name hname)
  have hplain := hword hnames.plain
  have hinplace := hword hnames.inplace
  have hbackward := hword hnames.backward
  have hcotangent := hword hnames.cotangent
  have hdefinition := not_mem_signature _ _ hplain hinput
  have hforwards := not_mem_signature _ _ hinplace hinput
  have hback := not_mem_signature _ [naming.cotangent] hbackward (by simpa using hcotangent)
  have hgradients (names : List String) (hall : ∀ name ∈ names, name ∈ roles.inputs) :
      '\r' ∉ (tupleText (names.map naming.gradient)).toList := by
    refine not_mem_tupleText fun item hitem => ?_
    obtain ⟨name, hname, rfl⟩ := List.mem_map.mp hitem
    exact hgradient name (hall name hname)
  have hcotangents := hgradients roles.mutated hmutated
  have hreturned := not_mem_tupleText fun name hname => hinput name (hmutated name hname)
  have hslots : '\r' ∉ (tupleText (roles.inputs.map (slot naming roles))).toList := by
    refine not_mem_tupleText fun item hitem => ?_
    obtain ⟨name, hname, rfl⟩ := List.mem_map.mp hitem
    unfold slot
    split
    · decide
    · exact hgradient name hname
  intro text htext
  simp only [ruleTexts, List.mem_append, List.mem_cons, List.not_mem_nil, or_false,
    List.mem_map] at htext
  rcases htext with (((((rfl | rfl | rfl | rfl | rfl | rfl) | ⟨name, hname, rfl⟩) |
    ⟨name, hname, rfl⟩) | rfl | rfl | rfl) | ⟨name, hname, rfl⟩) | rfl | rfl | rfl | rfl
  · decide
  · simpa using hdefinition
  · exact hforwards
  · decide
  · simpa using hback
  · simp [hcotangents, hcotangent]
  · simp [densifyText, hgradient name (hmutated name hname)]
  · simp [noGradientText, hgradient name (hmutated name hname), hinput name (hmutated name hname)]
  · unfold engineText
    split
    · decide
    · simp [hgradients roles.active hactive]
  · simp [hinplace]
  · decide
  · have hargument : '\r' ∉ (signature (engineListed naming roles name).name
        (engineListed naming roles name).items).toList := by
      unfold engineListed
      split_ifs
      · exact not_mem_signature "Duplicated" _ (by decide)
          (by simp [hinput name hname, hgradient name hname])
      · exact not_mem_signature "Const" _ (by decide) (by simp [hinput name hname])
      · exact not_mem_signature "Active" _ (by decide) (by simp [hinput name hname])
    simpa using hargument
  · decide
  · simpa using hslots
  · decide
  · simp [hreturned, hbackward]

end

/-! ## The rule that a synthesis writes -/

section
variable {block : Block} {constants : List String} {settings : Settings} {artifacts : Artifacts}

lemma Settings.Standard.indent_ne_nil (h : settings.Standard) : settings.indent.toList ≠ [] := by
  obtain ⟨value, hget, hcheck⟩ := h.accepted .indent (by decide)
  obtain rfl : settings.indent = value := Option.some.inj hget
  intro hnil
  rw [Setting.check, if_neg fun hne => hne.1 (String.toList_eq_nil_iff.mp hnil)] at hcheck
  cases hcheck

lemma mutated_ne_nil {usage : Usage} {roles : Roles}
    (h : splitRoles block constants usage = .ok roles) : roles.mutated ≠ [] := by
  unfold splitRoles at h
  dsimp only at h
  split at h
  · cases h
  · next hempty =>
    split at h
    · cases h
    · split at h
      · cases h
      · obtain rfl := (Except.ok.inj h).symm
        exact fun hnil => hempty (List.isEmpty_iff.mpr hnil)

/-- Accepted names are identifiers, so that only keywords are in the way. -/
lemma Settings.Standard.unreserved (h : settings.Standard) {roles : Roles}
    (hname : Text.isIdentifier block.name.toList = true)
    (hinputs : ∀ name ∈ roles.inputs, Text.isIdentifier name.toList = true)
    (hkeywords : ∀ name ∈ block.name :: (generatedNames block roles settings ++ roles.inputs),
      Keyword.ofSpelling? name.toList = none) :
    (Naming.of block settings).Unreserved roles.inputs := by
  have unreserved {name : String} (hidentifier : Text.isIdentifier name.toList = true)
      (hmem : name ∈ block.name :: (generatedNames block roles settings ++ roles.inputs)) :
      IsUnreserved name.toList :=
    ⟨hidentifier, by rw [wordKind, hkeywords name hmem]⟩
  have hgradient : Text.isIdentifier settings.gradientStart.toList = true :=
    h.isIdentifier (by decide : Setting.gradientStart ∈ Setting.naming) rfl rfl
  have hbackward : Text.isIdentifier settings.backwardStart.toList = true :=
    h.isIdentifier (by decide : Setting.backwardStart ∈ Setting.naming) rfl rfl
  have hcotangent : Text.isIdentifier settings.cotangentName.toList = true :=
    h.isIdentifier (by decide : Setting.cotangentName ∈ Setting.naming) rfl rfl
  have joined {start rest : String} (hstart : Text.isIdentifier start.toList = true)
      (hrest : ∀ c ∈ rest.toList, Text.isIdentifierPart c = true) :
      Text.isIdentifier (start ++ rest).toList = true := by
    rw [String.toList_append]
    exact Text.isIdentifier_append hstart (List.all_eq_true.mpr hrest)
  have hparts {name : String} (hidentifier : Text.isIdentifier name.toList = true) :
      ∀ c ∈ name.toList, Text.isIdentifierPart c = true :=
    List.all_eq_true.mp (Text.all_part_of_isIdentifier hidentifier)
  refine ⟨unreserved hname ?_, unreserved (joined hname h.isIdentifierPart_inplaceSuffix) ?_,
    unreserved (joined hbackward (hparts hname)) ?_, unreserved hcotangent ?_,
    fun name hmem => unreserved (hinputs name hmem) ?_,
    fun name hmem => unreserved (joined hgradient (hparts (hinputs name hmem))) ?_⟩
  · exact List.mem_cons_self
  · simp [generatedNames, Naming.of]
  · simp [generatedNames, Naming.of]
  · simp [generatedNames, Naming.of]
  · simp [hmem]
  · have hgenerated : (Naming.of block settings).gradient name ∈
        generatedNames block roles settings :=
      List.mem_append_right _ (List.mem_map_of_mem hmem)
    exact List.mem_cons_of_mem _ (List.mem_append_left _ hgenerated)

/-- The lines of the adjoint rule hold no carriage return. -/
lemma not_mem_ofLines_ruleTexts (hsettings : settings.Standard) {naming : Naming} {roles : Roles}
    (hnames : naming.Unreserved roles.inputs)
    (hmutated : ∀ name ∈ roles.mutated, name ∈ roles.inputs)
    (hactive : ∀ name ∈ roles.active, name ∈ roles.inputs) :
    '\r' ∉ ofLines ((ruleTexts naming roles).map fun text => lineAt settings text.1 text.2) := by
  rw [ofLines_eq_endLines (by simp [ruleTexts])]
  intro hmem
  obtain ⟨line, hline, hmem⟩ := List.mem_flatMap.mp hmem
  obtain ⟨text, htext, rfl⟩ := List.mem_map.mp hline
  have hreturn := not_mem_ruleTexts hnames hmutated hactive text htext
  have hmargin : '\r' ∉ indentation settings text.1 :=
    fun hmem => absurd (isMargin_indentation hsettings _ _ hmem) (by decide)
  unfold lineAt at hmem
  split at hmem
  · simp at hmem
  · simp [hmargin, hreturn] at hmem

/-- **The adjoint rule is read as its tree**, whatever the block, its constants and the accepted
names, if the names are identifiers and none is a keyword. -/
theorem exists_read_adjoint [Template.Runtime] (hsettings : settings.Standard)
    (hname : Text.isIdentifier block.name.toList = true)
    (h : (synthesize block constants settings).result = .ok artifacts)
    (hinputs : ∀ name ∈ artifacts.roles.inputs, Text.isIdentifier name.toList = true)
    (hkeywords : ∀ name ∈ block.name ::
      (generatedNames block artifacts.roles settings ++ artifacts.roles.inputs),
        Keyword.ofSpelling? name.toList = none) :
    ∃ statements, Code.read artifacts.adjoint = .ok statements ∧
      statements.map (Stmt.seen .bare) = [ruleTree (Naming.of block settings) artifacts.roles] := by
  have hnames := hsettings.unreserved hname hinputs hkeywords
  obtain ⟨usage, roles, adjoint, -, hsplit, -, hadjoint, rfl⟩ := synthesize_eq_ok_iff.mp h
  dsimp only at hnames ⊢
  have hroles := (splitRoles_eq_ok hsplit).2
  have hmutated : ∀ name ∈ roles.mutated, name ∈ roles.inputs :=
    fun _ => hroles.mem_inputs_of_mutated
  have hactive : ∀ name ∈ roles.active, name ∈ roles.inputs := fun _ => hroles.mem_inputs_of_active
  have hlines := linesText_ruleLines hsettings hsettings.indent_ne_nil hnames hmutated hactive
    (mutated_ne_nil hsplit)
  rw [← ofLines_ruleTexts] at hlines
  rw [adjointRule_eq hroles hsettings] at hadjoint
  rw [← Except.ok.inj hadjoint]
  refine hlines.exists_read hsettings.indent_ne_nil hsettings.margin (List.cons_ne_nil _ _) ?_ ?_
  · exact not_mem_ofLines_ruleTexts hsettings hnames hmutated hactive
  · rw [ofLines, List.getLast?_concat]

attribute [local instance] Template.Runtime.bare

/-- A block with a keyword for its name. -/
theorem not_read_adjoint_keyword :
    ∃ artifacts, (synthesize ⟨"a[0] = 1\n".toList, "class", .ofNames ["a"] .array, false⟩ []
      .default).result = .ok artifacts ∧ (Code.read artifacts.adjoint).isOk = false :=
  exists_ok_of_decide (by decide +kernel)

end

end AdjointSynthesis

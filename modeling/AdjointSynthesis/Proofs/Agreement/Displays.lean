import AdjointSynthesis.Code.Grammar.Displays
import AdjointSynthesis.Proofs.Agreement.Arguments

/-!
# Agreement of displays
-/

set_option synthInstance.maxSize 1000

namespace AdjointSynthesis.Code.Grammar

open Reader

variable {p : Pairing} {later : Bool} [hp : p.Fair] {sub sub' : Grammar} [Ready p sub sub']

/-! ## Round and square brackets -/

instance agree_tupleDisplay : Agree p later true (tupleDisplay sub) (tupleDisplay sub') := by
  unfold tupleDisplay
  infer_instance

instance agree_group : Agree p later true (group sub) (group sub') := by
  unfold group
  infer_instance

instance agree_generatorDisplay :
    Agree p later true (generatorDisplay sub) (generatorDisplay sub') := by
  unfold generatorDisplay
  infer_instance

instance agree_listDisplay : Agree p later true (listDisplay sub) (listDisplay sub') := by
  unfold listDisplay
  infer_instance

instance agree_listComprehension :
    Agree p later true (listComprehension sub) (listComprehension sub') := by
  unfold listComprehension
  infer_instance

/-! ## Curly brackets -/

instance agree_keyValue [Agree p later true (sub .expression) (sub' .expression)] :
    Agree p later true (keyValue sub) (keyValue sub') := by
  unfold keyValue
  infer_instance

instance agree_dictItem [Agree p later true (sub .expression) (sub' .expression)] :
    Agree p later true (dictItem sub) (dictItem sub') := by
  have item (twin : Twin p (Expr × Expr)) : Agree p true false
      (match twin.left with | (key, value) => (pure (DictItem.pair key value) : Reader _))
      (match twin.right with | (key, value) => pure (DictItem.pair key value)) := by
    obtain ⟨⟨_, _⟩, ⟨_, _⟩, hkey, hvalue⟩ := twin
    exact agree_pure (h := ⟨congrArg₂ DictItem.pair hkey hvalue⟩)
  unfold dictItem
  infer_instance

section

/-! The faults of dictionary entries are looked for in either mood. -/

variable [Agree p later true (sub .expression) (sub' .expression)]

instance agree_valueFaults :
    Agree p later true (firstOf (valueFaults sub)) (firstOf (valueFaults sub')) := by
  unfold valueFaults
  infer_instance

instance agree_laterItemFaults :
    Agree p later true (firstOf (laterItemFaults sub)) (firstOf (laterItemFaults sub')) := by
  unfold laterItemFaults
  infer_instance

instance agree_itemFaults :
    Agree p later true (firstOf (itemFaults sub)) (firstOf (itemFaults sub')) := by
  unfold itemFaults
  infer_instance

end

instance agree_dictDisplay : Agree p later true (dictDisplay sub) (dictDisplay sub') := by
  unfold dictDisplay
  infer_instance

instance agree_setDisplay : Agree p later true (setDisplay sub) (setDisplay sub') := by
  unfold setDisplay
  infer_instance

instance agree_dictComprehension :
    Agree p later true (dictComprehension sub) (dictComprehension sub') := by
  unfold dictComprehension
  infer_instance

instance agree_setComprehension :
    Agree p later true (setComprehension sub) (setComprehension sub') := by
  unfold setComprehension
  infer_instance

/-- The displays that are tried when a kind of token comes next. -/
lemma agree_displayAt (later : Bool) (kind : Token.Kind) : Agree p later true
    (match kind with
      | .mark .openParen => tupleDisplay sub <|> group sub <|> generatorDisplay sub
      | .mark .openBracket => listDisplay sub <|> listComprehension sub
      | .mark .openBrace =>
        dictDisplay sub <|> setDisplay sub <|> dictComprehension sub <|> setComprehension sub
      | _ => Reader.nothing)
    (match kind with
      | .mark .openParen => tupleDisplay sub' <|> group sub' <|> generatorDisplay sub'
      | .mark .openBracket => listDisplay sub' <|> listComprehension sub'
      | .mark .openBrace =>
        dictDisplay sub' <|> setDisplay sub' <|> dictComprehension sub' <|> setComprehension sub'
      | _ => Reader.nothing) := by
  cases kind with
  | mark sign =>
    cases sign with
    | openParen | openBracket | openBrace => dsimp only; infer_instance
    | _ => exact agree_nothing
  | _ => exact agree_nothing

instance agree_display : Agree p later true (display sub) (display sub') := by
  unfold display
  refine ⟨Agrees.peek_bind ?_ ?_⟩
  · intro i token other hi _ _ _ h
    rw [← h.kind]
    refine Agrees.mono (agree_displayAt later token.kind).agrees ?_
    rintro _ - rfl
    exact hi
  · intro token other _ h
    have hleft := h.left
    have hright := h.right
    generalize token.kind = kind at hleft
    generalize other.kind = kind' at hright
    cases kind <;> simp only [Token.Kind.isClosing, Bool.false_eq_true] at hleft <;>
      cases kind' <;> simp only [Token.Kind.isClosing, Bool.false_eq_true] at hright <;>
      exact .nothing

end AdjointSynthesis.Code.Grammar

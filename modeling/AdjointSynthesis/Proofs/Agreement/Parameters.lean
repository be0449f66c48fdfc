import AdjointSynthesis.Code.Grammar.Parameters
import AdjointSynthesis.Proofs.Agreement.Rules

/-!
# Agreement of parameters
-/

set_option synthInstance.maxSize 1000

namespace AdjointSynthesis.Code.Grammar

open Reader

/-! ## The parameters from a star on, compared part by part -/

instance comparedStar : Compared StarParameters :=
  ⟨fun p a b => Compared.alike p a.variadic b.variadic ∧
    Compared.alike p a.keywordOnly b.keywordOnly ∧ Compared.alike p a.keywords b.keywords⟩

variable {p : Pairing} {later : Bool} [hp : p.Fair] {sub sub' : Grammar} [Ready p sub sub']
  {style : ParameterStyle}

section

variable {a a' : StarParameters} [h : Similar p a a']

instance similar_variadic : Similar p a.variadic a'.variadic := ⟨h.alike.1⟩

instance similar_keywordOnly : Similar p a.keywordOnly a'.keywordOnly := ⟨h.alike.2.1⟩

instance similar_keywords : Similar p a.keywords a'.keywords := ⟨h.alike.2.2⟩

end

instance similar_star {v v' w w' : Option Parameter} {k k' : List (Parameter × Option Expr)}
    [hv : Similar p v v'] [hk : Similar p k k'] [hw : Similar p w w'] :
    Similar p (⟨v, k, w⟩ : StarParameters) ⟨v', k', w'⟩ := ⟨hv.alike, hk.alike, hw.alike⟩

instance similar_joinParameters {b b' m m' : List Parameter} {d d' k k' : List (Parameter × Expr)}
    {star star' : Option StarParameters} [Similar p b b'] [Similar p d d'] [Similar p m m']
    [Similar p k k'] [Similar p star star'] :
    Similar p (joinParameters b d m k star) (joinParameters b' d' m' k' star') := by
  unfold joinParameters
  dsimp only
  infer_instance

/-! ## One parameter -/

instance agree_parameter : Agree p later true (parameter sub style) (parameter sub' style) := by
  have found (twin : Twin p (Span × String × Option Expr)) : Agree p true false
      (match twin.left with | (span, name, hint) => (pure (Parameter.mk span name hint) : Reader _))
      (match twin.right with | (span, name, hint) => pure (Parameter.mk span name hint)) := by
    obtain ⟨⟨span, name, hint⟩, ⟨span', name', hint'⟩, hspan, hname, hhint⟩ := twin
    have : Similar p span span' := ⟨hspan⟩
    have : Similar p name name' := ⟨hname⟩
    have : Similar p hint hint' := ⟨hhint⟩
    exact agree_pure
  unfold parameter
  cases style.isLambda <;> dsimp only [Bool.false_eq_true, if_false, if_true] <;>
    exact agree_bind_strict

instance agree_starAnnotated : Agree p later true (starAnnotated sub) (starAnnotated sub') := by
  have found (twin : Twin p (Span × String × Expr)) : Agree p true false
      (match twin.left with
        | (span, name, hint) => (pure (Parameter.mk span name (some hint)) : Reader _))
      (match twin.right with
        | (span, name, hint) => pure (Parameter.mk span name (some hint))) := by
    obtain ⟨⟨span, name, hint⟩, ⟨span', name', hint'⟩, hspan, hname, hhint⟩ := twin
    have : Similar p span span' := ⟨hspan⟩
    have : Similar p name name' := ⟨hname⟩
    have : Similar p hint hint' := ⟨hhint⟩
    exact agree_pure
  unfold starAnnotated
  exact agree_bind_strict

instance agree_defaultValue : Agree p later true (defaultValue sub) (defaultValue sub') := by
  unfold defaultValue
  infer_instance

instance agree_parameterEnd : Agree p later false (parameterEnd style) (parameterEnd style) := by
  unfold parameterEnd
  infer_instance

instance agree_plainParameter :
    Agree p later true (plainParameter sub style) (plainParameter sub' style) := by
  unfold plainParameter
  infer_instance

instance agree_defaultParameter :
    Agree p later true (defaultParameter sub style) (defaultParameter sub' style) := by
  unfold defaultParameter
  infer_instance

instance agree_anyParameter :
    Agree p later true (anyParameter sub style) (anyParameter sub' style) := by
  unfold anyParameter
  infer_instance

/-! ## Parameters in a row -/

instance agree_slashEnd : Agree p later true (slashEnd style) (slashEnd style) := by
  unfold slashEnd
  infer_instance

instance agree_plainBeforeSlash :
    Agree p later true (plainBeforeSlash sub style) (plainBeforeSlash sub' style) := by
  unfold plainBeforeSlash
  infer_instance

instance agree_defaultsBeforeSlash :
    Agree p later true (defaultsBeforeSlash sub style) (defaultsBeforeSlash sub' style) := by
  unfold defaultsBeforeSlash
  infer_instance

instance agree_spreadParameter :
    Agree p later true (spreadParameter sub style) (spreadParameter sub' style) := by
  unfold spreadParameter
  infer_instance

instance agree_starParameters :
    Agree p later true (starParameters sub style) (starParameters sub' style) := by
  unfold starParameters
  cases style.isLambda <;> simp only [Bool.false_eq_true, if_false, if_true] <;> infer_instance

instance agree_parameters : Agree p later true (parameters sub style) (parameters sub' style) := by
  unfold parameters
  infer_instance

end AdjointSynthesis.Code.Grammar

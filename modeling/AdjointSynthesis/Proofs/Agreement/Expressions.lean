import AdjointSynthesis.Code.Grammar.Expressions
import AdjointSynthesis.Proofs.Agreement.Displays
import AdjointSynthesis.Proofs.Agreement.Parameters

/-!
# Agreement of expressions
-/

set_option synthInstance.maxSize 1000

namespace AdjointSynthesis.Code.Grammar

open Reader

variable {p : Pairing} {later : Bool} [hp : p.Fair] {sub sub' : Grammar} [Ready p sub sub']

/-! ## Words and brackets -/

/-- A number counts as it is written. -/
instance agree_numberForm : Agree p later true numberForm numberForm := by
  have form (twin : Twin p Token) : Agree p true false
      (match wholeDigits? twin.left.written with
        | some count =>
          if mostDigits < count then refuseToken twin.left (.tooManyDigits count)
          else return Form.constant (.number (String.ofList twin.left.written))
        | none => return Form.constant (.number (String.ofList twin.left.written)))
      (match wholeDigits? twin.right.written with
        | some count =>
          if mostDigits < count then refuseToken twin.right (.tooManyDigits count)
          else return Form.constant (.number (String.ofList twin.right.written))
        | none => return Form.constant (.number (String.ofList twin.right.written))) := by
    rw [twin.alike.written]
    split
    · split
      · exact agree_refuseToken.weaken
      · infer_instance
    · infer_instance
  exact agree_bind_strict

instance agree_constantForm : Agree p later true constantForm constantForm := by
  unfold constantForm
  infer_instance

instance agree_atom [Agree p later true (sub .text) (sub' .text)] :
    Agree p later true (atom sub) (atom sub') := by
  unfold atom
  infer_instance

/-! ## Attributes, calls and subscripts -/

instance agree_slice [Agree p later true (sub .expression) (sub' .expression)] :
    Agree p later true (slice sub) (slice sub') := by
  unfold slice
  infer_instance

instance agree_slices [Agree p later true (sub .expression) (sub' .expression)] :
    Agree p later true (slices sub) (slices sub') := by
  unfold slices
  infer_instance

section

variable {start start' : Place} {e e' : Expr} [Similar p start start'] [Similar p e e']

instance agree_attributeOf : Agree p later true (attributeOf start e) (attributeOf start' e') := by
  unfold attributeOf
  infer_instance

instance agree_callOf : Agree p later true (callOf sub start e) (callOf sub' start' e') := by
  unfold callOf
  infer_instance

instance agree_subscriptOf :
    Agree p later true (subscriptOf sub start e) (subscriptOf sub' start' e') := by
  unfold subscriptOf
  infer_instance

end

instance agree_primaryRule [Agree p later true (sub .text) (sub' .text)] :
    Agree p later true (primaryRule sub) (primaryRule sub') := by
  unfold primaryRule
  infer_instance

/-! ## Operators -/

section

variable [Agree p later true (sub .primary) (sub' .primary)]

instance agree_awaited : Agree p later true (awaited sub) (awaited sub') := by
  unfold awaited
  infer_instance

instance agree_power : Agree p later true (power sub) (power sub') := by
  have raised {start start' : Place} {base base' : Expr} [Similar p start start']
      [Similar p base base'] (twin : Twin p (Option Expr)) : Agree p true false
      (match twin.left with
        | some exponent => do return Expr.mk (← spanFrom start) (.binary .power base exponent)
        | none => return base)
      (match twin.right with
        | some exponent => do return Expr.mk (← spanFrom start') (.binary .power base' exponent)
        | none => return base') := by
    obtain ⟨left, right, h⟩ := twin
    cases h with
    | @some exponent exponent' h =>
      have : Similar p exponent exponent' := ⟨h⟩
      infer_instance
    | none => infer_instance
  unfold power
  infer_instance

instance agree_signed {sign : Mark} {operator : UnaryOperator} {operand operand' : Reader Expr}
    [Agree p true true operand operand'] :
    Agree p later true (signed sign operator operand) (signed sign operator operand') := by
  unfold signed
  infer_instance

instance agree_factorRule : Agree p later true (factorRule sub) (factorRule sub') := by
  unfold factorRule
  infer_instance

end

section

variable [Agree p later true (sub .factor) (sub' .factor)]

instance agree_term : Agree p later true (term sub) (term sub') := by
  unfold term
  infer_instance

instance agree_sum : Agree p later true (sum sub) (sum sub') := by
  unfold sum
  infer_instance

instance agree_shift : Agree p later true (shift sub) (shift sub') := by
  unfold shift
  infer_instance

instance agree_bitwiseAnd : Agree p later true (bitwiseAnd sub) (bitwiseAnd sub') := by
  unfold bitwiseAnd
  infer_instance

instance agree_bitwiseXor : Agree p later true (bitwiseXor sub) (bitwiseXor sub') := by
  unfold bitwiseXor
  infer_instance

instance agree_bitwiseOrRule : Agree p later true (bitwiseOrRule sub) (bitwiseOrRule sub') := by
  unfold bitwiseOrRule
  infer_instance

end

/-! ## Comparisons and logic -/

instance agree_related {relation : Relation} {sign sign' : Reader Unit}
    [Agree p later true sign sign'] :
    Agree p later true (related sub relation sign) (related sub' relation sign') := by
  unfold related
  infer_instance

instance agree_link : Agree p later true (link sub) (link sub') := by
  unfold link
  infer_instance

instance agree_comparison [Agree p later true (sub .bitwiseOr) (sub' .bitwiseOr)] :
    Agree p later true (comparison sub) (comparison sub') := by
  unfold comparison
  infer_instance

instance agree_inversionRule [Agree p later true (sub .bitwiseOr) (sub' .bitwiseOr)] :
    Agree p later true (inversionRule sub) (inversionRule sub') := by
  unfold inversionRule
  infer_instance

instance agree_joined {kind : Junction} {between : Keyword} {operand operand' : Reader Expr}
    [Passes (Token.Kind.keyword between).isOrdinary] [Agree p later true operand operand']
    [Agree p true true operand operand'] :
    Agree p later true (joined kind between operand) (joined kind between operand') := by
  unfold joined
  infer_instance

instance agree_disjunctionRule [Agree p later true (sub .inversion) (sub' .inversion)] :
    Agree p later true (disjunctionRule sub) (disjunctionRule sub') := by
  unfold disjunctionRule
  infer_instance

/-! ## Whole expressions -/

section

variable [Agree p later true (sub .disjunction) (sub' .disjunction)]

instance agree_conditional : Agree p later true (conditional sub) (conditional sub') := by
  unfold conditional
  infer_instance

instance agree_lambda : Agree p later true (lambda sub) (lambda sub') := by
  unfold lambda
  infer_instance

instance agree_faultlessExpression :
    Agree p later true (faultlessExpression sub) (faultlessExpression sub') := by
  unfold faultlessExpression
  infer_instance

instance agree_expressionRule : Agree p later true (expressionRule sub) (expressionRule sub') := by
  unfold expressionRule
  infer_instance

end

instance agree_starExpressionRule [Agree p later true (sub .expression) (sub' .expression)] :
    Agree p later true (starExpressionRule sub) (starExpressionRule sub') := by
  unfold starExpressionRule
  infer_instance

end AdjointSynthesis.Code.Grammar

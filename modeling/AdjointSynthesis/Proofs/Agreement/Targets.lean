import AdjointSynthesis.Code.Grammar.Targets
import AdjointSynthesis.Proofs.Agreement.Expressions

/-!
# Agreement of targets
-/

set_option synthInstance.maxSize 1000

namespace AdjointSynthesis.Code.Grammar

open Reader

variable {p : Pairing} {later : Bool} [hp : p.Fair] {sub sub' : Grammar} [Ready p sub sub']

/-! ## Attributes and subscripts as targets -/

instance agree_extensionAhead : Agree p later true extensionAhead extensionAhead := by
  unfold extensionAhead
  infer_instance

instance agree_extended {r r' : Reader Expr} [Agree p later true r r'] :
    Agree p later true (extended r) (extended r') := by
  unfold extended
  infer_instance

instance agree_targetPrimaryRule [Agree p later true (sub .text) (sub' .text)] :
    Agree p later true (targetPrimaryRule sub) (targetPrimaryRule sub') := by
  unfold targetPrimaryRule
  infer_instance

section

variable [Agree p later true (sub .targetPrimary) (sub' .targetPrimary)]

instance agree_partTarget : Agree p later true (partTarget sub) (partTarget sub') := by
  unfold partTarget
  infer_instance

/-! ## Assignment -/

instance agree_starTargetRule [Agree p later true (sub .targetAtom) (sub' .targetAtom)] :
    Agree p later true (starTargetRule sub) (starTargetRule sub') := by
  unfold starTargetRule
  infer_instance

instance agree_tupleTarget : Agree p later true (tupleTarget sub) (tupleTarget sub') := by
  unfold tupleTarget
  infer_instance

instance agree_listTarget : Agree p later true (listTarget sub) (listTarget sub') := by
  unfold listTarget
  infer_instance

instance agree_targetAtomRule : Agree p later true (targetAtomRule sub) (targetAtomRule sub') := by
  unfold targetAtomRule
  infer_instance

instance agree_singleTargetRule :
    Agree p later true (singleTargetRule sub) (singleTargetRule sub') := by
  unfold singleTargetRule
  infer_instance

/-! ## Deletion and annotation -/

instance agree_deleteTargets [Agree p later true (sub .deleteTarget) (sub' .deleteTarget)] :
    Agree p later true (deleteTargets sub) (deleteTargets sub') := by
  unfold deleteTargets
  infer_instance

instance agree_deleteTargetRule :
    Agree p later true (deleteTargetRule sub) (deleteTargetRule sub') := by
  unfold deleteTargetRule
  infer_instance

instance agree_annotatedTarget :
    Agree p later true (annotatedTarget sub) (annotatedTarget sub') := by
  unfold annotatedTarget
  infer_instance

end

end AdjointSynthesis.Code.Grammar

import AdjointSynthesis.Block
import AdjointSynthesis.Logged

/-!
# Roles of variables

Every visible variable that a block refers to has one of three roles.

* A mutated one is written to; its gradient is updated in place.
* A constant one is declared so; its gradient is zero.
* Any other is active; its gradient is computed.
-/

namespace AdjointSynthesis

/-- The roles of variables. -/
inductive Role where
  | mutated | constant | active
deriving DecidableEq, Repr

/-- The name of a role. -/
def Role.name : Role → String
  | .mutated => "mutated"
  | .constant => "constant"
  | .active => "active"

/-- The variables that a block takes, split by their roles. -/
structure Roles where
  inputs : List String
  mutated : List String
  constant : List String
  active : List String
deriving DecidableEq, Repr

namespace Roles

/-- The role of a variable. -/
def role (roles : Roles) (name : String) : Except Failure Role :=
  if roles.mutated.contains name then .ok .mutated
  else if roles.constant.contains name then .ok .constant
  else if roles.active.contains name then .ok .active
  else .error (.unknownName name)

end Roles

/-- The split of the visible variables that a usage refers to, and why there may be none. -/
def splitRoles (block : Block) (constants : List String) (usage : Usage) :
    Except Failure Roles := do
  let inputs := block.visible.filter usage.references
  let mutated := inputs.filter usage.mutates
  if mutated.isEmpty then throw (.noMutation block.name inputs)
  let conflicts := mutated.filter constants.contains
  if !conflicts.isEmpty then throw (.mutatedConstants conflicts)
  let immutable := mutated.filter fun name =>
    block.scope.get? name == some .immutableArray
  if !immutable.isEmpty then throw (.immutableTargets immutable)
  return {
    inputs
    mutated
    constant := inputs.filter constants.contains
    active := inputs.filter fun name => !mutated.contains name && !constants.contains name }

/-- The roles of the variables of a block whose usage is known. -/
def Roles.ofUsage (block : Block) (constants : List String) (usage : Usage) : Logged Roles := do
  let roles ← splitRoles block constants usage
  Logged.record .info .classify
    ("Found mutating variables " ++ ",".intercalate roles.mutated ++ " in function " ++ block.name)
  return roles

/-- The roles of the variables of a block. -/
def Roles.ofBlock (block : Block) (constants : List String) : Logged Roles := do
  Roles.ofUsage block constants (← block.usage)

end AdjointSynthesis

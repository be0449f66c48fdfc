import AdjointSynthesis.Block
import AdjointSynthesis.Logged

/-!
# The registry of shapes

Blocks that see the same variables have the same shape, and only the first block of a shape is
kept.  A shape is known by its position among the shapes.

* `Registry.register` looks a shape up by its variables and keeps its block if it is new;
* `Registry.get` finds the block at a position.
-/

namespace AdjointSynthesis

/-- Blocks of different shapes in the order of their registration, with the position of each
shape. -/
structure Registry where
  blocks : List Block
  /-- The positions by the variables that the blocks see. -/
  positions : List (List String × Nat)

namespace Registry

/-- No shapes at all. -/
def empty : Registry := ⟨[], []⟩

/-- The position of the shape with some variables, which may be given in any order. -/
def position? (registry : Registry) (names : List String) : Option Nat :=
  (registry.positions.find? fun entry => sameNames entry.1 names).map Prod.snd

/-- Whether the shape of a block is registered. -/
def contains (registry : Registry) (block : Block) : Bool :=
  (registry.position? block.visible).isSome

/-- The registry with a block of a new shape. -/
def push (registry : Registry) (block : Block) : Registry where
  blocks := registry.blocks ++ [block]
  positions := registry.positions ++ [(block.visible, registry.blocks.length)]

/-- What a registration yields: whether the shape is new, and its position. -/
structure Registration where
  isNew : Bool
  position : Nat
deriving DecidableEq, Repr

/-- Registers a block unless its shape is known. -/
def register (registry : Registry) (block : Block) : Registry × Logged Registration :=
  match registry.position? block.visible with
  | some position =>
    (registry, do
      Logged.record .debug .registry
        ("Block " ++ block.name ++ " matches shape #" ++ toString position ++ ", skipped")
      return ⟨false, position⟩)
  | none =>
    let position := registry.blocks.length
    (registry.push block, do
      Logged.record .info .registry
        ("Registered block " ++ block.name ++ " as shape #" ++ toString position)
      return ⟨true, position⟩)

/-- The block at a position; a negative one counts from the end. -/
def get (registry : Registry) (position : Int) : Except Failure Block :=
  let index := if position < 0 then position + registry.blocks.length else position
  if index < 0 then .error .unknownShape
  else
    match registry.blocks[index.toNat]? with
    | some block => .ok block
    | none => .error .unknownShape

/-! ## Views -/

/-- The count of shapes. -/
def size (registry : Registry) : Nat := registry.blocks.length

/-- The variables of each shape, in the order in which its block sees them. -/
def variableSets (registry : Registry) : List (List String) := registry.blocks.map Block.visible

/-- The names of the blocks. -/
def functionNames (registry : Registry) : List String := registry.blocks.map Block.name

end Registry

end AdjointSynthesis

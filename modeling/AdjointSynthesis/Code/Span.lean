/-!
# Places and spans

A place in a program is a line, counted from one, and a column, counted from zero in bytes of the
UTF-8 encoding of the line.  A span reaches from one place up to another.
-/

namespace AdjointSynthesis.Code

/-- A place in the text of a program. -/
structure Place where
  line : Nat
  column : Nat
deriving DecidableEq, Repr, Inhabited

/-- Whether a place comes before another. -/
def Place.before (p q : Place) : Bool :=
  Nat.blt p.line q.line || (p.line == q.line && Nat.blt p.column q.column)

/-- The part of a text from a place up to, but not including, another. -/
structure Span where
  start : Place
  stop : Place
deriving DecidableEq, Repr, Inhabited

/-- The width of a character in the UTF-8 encoding. -/
def byteWidth (c : Char) : Nat :=
  if c.toNat < 0x80 then 1 else if c.toNat < 0x800 then 2 else if c.toNat < 0x10000 then 3 else 4

/-- The width of a text in the UTF-8 encoding. -/
def bytesOf (text : List Char) : Nat := text.foldr (fun c width => byteWidth c + width) 0

theorem bytesOf_cons (c : Char) (text : List Char) :
    bytesOf (c :: text) = byteWidth c + bytesOf text := rfl

theorem bytesOf_append (text more : List Char) :
    bytesOf (text ++ more) = bytesOf text + bytesOf more := by
  induction text with
  | nil => simp [bytesOf]
  | cons c rest ih => rw [List.cons_append, bytesOf_cons, bytesOf_cons, ih, Nat.add_assoc]

theorem one_le_byteWidth (c : Char) : 1 ≤ byteWidth c := by
  unfold byteWidth
  split
  · exact Nat.le_refl 1
  · split
    · decide
    · split <;> decide

theorem length_le_bytesOf (text : List Char) : text.length ≤ bytesOf text := by
  induction text with
  | nil => simp
  | cons c rest ih =>
    have := one_le_byteWidth c
    rw [bytesOf_cons, List.length_cons]
    omega

end AdjointSynthesis.Code

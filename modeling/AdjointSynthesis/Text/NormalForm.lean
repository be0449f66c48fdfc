import AdjointSynthesis.Text.Ranges
import AdjointSynthesis.Text.NormalForm.Composition
import AdjointSynthesis.Text.NormalForm.Decomposition

/-!
# The normal form of an identifier

Identifiers count as equal when their compatibility compositions (form KC of the Unicode standard)
are equal, and the tree of a program holds them in that form.  A word is decomposed, its combining
characters are put in order, and what can be composed is composed.

A word of settled characters only, such as any ASCII word, is its own normal form
(`normalForm_of_settled`).
-/

namespace AdjointSynthesis.Text

/-- Whether a character leaves every word around it as it is. -/
def isSettled (c : Char) : Bool := c.toNat < 128 || !inRanges unsettledRanges c.toNat

/-- First Hangul syllable. -/
def hangulBase : Nat := 0xAC00

/-- The decomposition of a code point. -/
def decompose (code : Nat) : List Nat :=
  if 0xAC00 ≤ code ∧ code ≤ 0xD7A3 then
    let index := code - hangulBase
    let lead := 0x1100 + index / 588
    let vowel := 0x1161 + index % 588 / 28
    if index % 28 = 0 then [lead, vowel] else [lead, vowel, 0x11A7 + index % 28]
  else
    match replacedRuns.find? fun run => Nat.ble run.1 code && Nat.blt code (run.1 + run.2.1) with
    | some run => [run.2.2 + (code - run.1)]
    | none =>
      match expandedCharacters.find? fun entry => entry.1 == code with
      | some entry => entry.2
      | none => [code]

/-- The canonical combining class of a code point. -/
def combiningClass (code : Nat) : Nat :=
  match combiningRanges.find? fun range => Nat.ble range.1 code && Nat.ble code range.2.1 with
  | some range => range.2.2
  | none => 0

/-- Puts a code point behind those of its combining sequence with a class not above its own. -/
def insertCombining (entry : Nat × Nat) : List (Nat × Nat) → List (Nat × Nat)
  | [] => [entry]
  | next :: rest =>
    if next.2 ≠ 0 ∧ next.2 < entry.2 then next :: insertCombining entry rest
    else entry :: next :: rest

/-- The code points with each combining sequence in the order of its classes. -/
def orderCombining (codes : List Nat) : List (Nat × Nat) :=
  codes.foldr (fun code rest =>
    let rank := combiningClass code
    if rank = 0 then (code, 0) :: rest else insertCombining (code, rank) rest) []

/-- The code point that two adjacent ones compose to. -/
def composite? (first second : Nat) : Option Nat :=
  if 0x1100 ≤ first ∧ first ≤ 0x1112 ∧ 0x1161 ≤ second ∧ second ≤ 0x1175 then
    some (hangulBase + ((first - 0x1100) * 21 + (second - 0x1161)) * 28)
  else if 0xAC00 ≤ first ∧ first ≤ 0xD7A3 ∧ (first - hangulBase) % 28 = 0 ∧
      0x11A8 ≤ second ∧ second ≤ 0x11C2 then
    some (first + (second - 0x11A7))
  else
    (composites.find? fun entry => entry.1 == first && entry.2.1 == second).map (·.2.2)

/-- Composes behind a starter: the starter, what stayed behind it so far with the last class met,
and the rest.  A code point composes unless one of its own class or above stands between. -/
def composeAfter (starter : Nat) (kept : List Nat) (last : Nat) : List (Nat × Nat) → List Nat
  | [] => starter :: kept.reverse
  | (code, rank) :: rest =>
    let blocked := !kept.isEmpty && (last == 0 || Nat.ble rank last)
    match if blocked then none else composite? starter code with
    | some whole => composeAfter whole kept last rest
    | none =>
      if rank = 0 then starter :: kept.reverse ++ composeAfter code [] 0 rest
      else composeAfter starter (code :: kept) rank rest

/-- The composition of ordered code points. -/
def compose : List (Nat × Nat) → List Nat
  | [] => []
  | (code, rank) :: rest =>
    if rank = 0 then composeAfter code [] 0 rest else code :: compose rest

/-- The normal form of a word of identifier characters. -/
def normalForm (word : List Char) : List Char :=
  if word.all isSettled then word
  else (compose (orderCombining (word.flatMap fun c => decompose c.toNat))).map Char.ofNat

theorem normalForm_of_settled {word : List Char} (h : word.all isSettled = true) :
    normalForm word = word := by
  rw [normalForm, if_pos h]

end AdjointSynthesis.Text

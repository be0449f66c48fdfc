import AdjointSynthesis.Text.Quoted

/-!
# Texts from bytes

Bytes are read as UTF-8.  A character has one to four bytes: the first tells how many follow, and
some first bytes narrow the range of the second, so that every character has one encoding.

* `decode` yields the characters or the first place where the bytes are no character.
-/

namespace AdjointSynthesis.Text

/-- Why some bytes are no character. -/
inductive DecodingProblem where
  | start | continuation | ending
deriving DecidableEq, Repr

/-- The wording of a problem. -/
def DecodingProblem.message : DecodingProblem → String
  | .start => "invalid start byte"
  | .continuation => "invalid continuation byte"
  | .ending => "unexpected end of data"

/-- Bytes that are no character, the first of them and the place and number of all. -/
structure DecodingFault where
  first : Nat
  position : Nat
  count : Nat
  problem : DecodingProblem
deriving DecidableEq, Repr

/-- The wording of a fault. -/
def DecodingFault.message (fault : DecodingFault) : String :=
  let place :=
    if fault.count = 1 then
      "byte 0x" ++ String.ofList (hex false 2 fault.first) ++ " in position " ++
        toString fault.position
    else
      "bytes in position " ++ toString fault.position ++ "-" ++
        toString (fault.position + fault.count - 1)
  "'utf-8' codec can't decode " ++ place ++ ": " ++ fault.problem.message

/-- How many bytes follow the first byte of a character. -/
def tailLength? (first : Nat) : Option Nat :=
  if first < 0x80 then some 0
  else if first < 0xc2 then none
  else if first < 0xe0 then some 1
  else if first < 0xf0 then some 2
  else if first < 0xf5 then some 3
  else none

/-- Whether a byte may be the second of a character. -/
def mayBeSecond (first byte : Nat) : Bool :=
  let least := if first = 0xe0 then 0xa0 else if first = 0xf0 then 0x90 else 0x80
  let most := if first = 0xed then 0x9f else if first = 0xf4 then 0x8f else 0xbf
  Nat.ble least byte && Nat.ble byte most

/-- Whether a byte may be the third or fourth of a character. -/
def isContinuation (byte : Nat) : Bool := Nat.ble 0x80 byte && Nat.ble byte 0xbf

/-- The bytes at the beginning of a tail that may stand there. -/
def goodTail (first : Nat) : List Nat → List Nat
  | [] => []
  | second :: rest =>
    if mayBeSecond first second then second :: rest.takeWhile isContinuation else []

/-- The code point of a character with a first byte and the bytes behind it. -/
def codePointOf (first : Nat) (tail : List Nat) : Nat :=
  let high :=
    match tail.length with
    | 0 => first
    | 1 => first % 0x20
    | 2 => first % 0x10
    | _ => first % 8
  tail.foldl (fun code byte => code * 0x40 + byte % 0x40) high

/-- The characters of some bytes, the first of which stands at a position. -/
def decodeFrom (position : Nat) : Nat → List Nat → Except DecodingFault (List Char)
  | 0, _ => .ok []
  | _, [] => .ok []
  | fuel + 1, first :: rest =>
    match tailLength? first with
    | none => .error ⟨first, position, 1, .start⟩
    | some count =>
      let good := goodTail first (rest.take count)
      if good.length = count then do
        let more ← decodeFrom (position + count + 1) fuel (rest.drop count)
        return Char.ofNat (codePointOf first good) :: more
      else if good.length = rest.length then
        .error ⟨first, position, good.length + 1, .ending⟩
      else .error ⟨first, position, good.length + 1, .continuation⟩

/-- The characters of some bytes. -/
def decode (bytes : List UInt8) : Except DecodingFault (List Char) :=
  decodeFrom 0 bytes.length (bytes.map UInt8.toNat)

end AdjointSynthesis.Text

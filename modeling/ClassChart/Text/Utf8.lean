import ClassChart.Text.Quoted

/-! UTF-8 read leniently and strictly. To a lenient reader each longest run of octets that starts a
character and cannot be finished becomes one replacement character, and so does each octet that can
start none. A strict one stops there and says why. -/
namespace ClassChart.Text

/-- A character under way: the octets still owed, the bounds of the next one, the bits so far. -/
structure Unfinished where
  owed : Nat
  low : Nat
  high : Nat
  bits : Nat

def replacement : Char := Char.ofNat 0xFFFD

/- The first octet of a character. The bounds of the second octet keep out overlong forms,
surrogates and what lies past the last code point. -/
def firstOctet (b : Nat) : List Char × Option Unfinished :=
  if b < 0x80 then ([Char.ofNat b], none)
  else if b < 0xC2 then ([replacement], none)
  else if b < 0xE0 then ([], some ⟨1, 0x80, 0xBF, b - 0xC0⟩)
  else if b < 0xF0 then
    ([], some ⟨2, if b = 0xE0 then 0xA0 else 0x80, if b = 0xED then 0x9F else 0xBF, b - 0xE0⟩)
  else if b < 0xF5 then
    ([], some ⟨3, if b = 0xF0 then 0x90 else 0x80, if b = 0xF4 then 0x8F else 0xBF, b - 0xF0⟩)
  else ([replacement], none)

def nextOctet (part : Unfinished) (b : Nat) : List Char × Option Unfinished :=
  if part.low ≤ b && b ≤ part.high then
    let bits := part.bits * 64 + (b - 0x80)
    if part.owed ≤ 1 then ([Char.ofNat bits], none) else ([], some ⟨part.owed - 1, 0x80, 0xBF, bits⟩)
  else
    let (out, part) := firstOctet b
    (replacement :: out, part)

def decodeFrom : Option Unfinished → List UInt8 → List Char
  | none, [] => []
  | some _, [] => [replacement]
  | none, b :: rest => let (out, part) := firstOctet b.toNat; out ++ decodeFrom part rest
  | some part, b :: rest => let (out, part) := nextOctet part b.toNat; out ++ decodeFrom part rest

def decode (bytes : List UInt8) : String := String.ofList (decodeFrom none bytes)

inductive DecodeCause where
  | badStart | badContinuation | cutOff
  deriving DecidableEq, Repr

def DecodeCause.message : DecodeCause → String
  | badStart => "invalid start byte"
  | badContinuation => "invalid continuation byte"
  | cutOff => "unexpected end of data"

/-- The first octets that are no text, the position that they are reported at, and why. -/
structure DecodeFault where
  position : Nat
  first : UInt8
  more : Nat
  cause : DecodeCause
  deriving DecidableEq, Repr

def DecodeFault.message (f : DecodeFault) : String :=
  let place := if f.more = 0 then
      "byte 0x" ++ String.ofList (hexDigits 2 f.first.toNat) ++ " in position " ++ toString f.position
    else "bytes in position " ++ toString f.position ++ "-" ++ toString (f.position + f.more)
  "'utf-8' codec can't decode " ++ place ++ ": " ++ f.cause.message

/- A character under way comes with its first octet and the number of those after it. What the end of
the octets cuts off is reported as if nothing stood before it. -/
def decodeFaultFrom : Nat → Option (Unfinished × UInt8 × Nat) → List UInt8 → Option DecodeFault
  | _, none, [] => none
  | _, some (_, first, more), [] => some ⟨0, first, more, .cutOff⟩
  | position, none, b :: rest =>
    if b.toNat < 0x80 then decodeFaultFrom (position + 1) none rest
    else match firstOctet b.toNat with
      | (_, some part) => decodeFaultFrom position (some (part, b, 0)) rest
      | (_, none) => some ⟨position, b, 0, .badStart⟩
  | position, some (part, first, more), b :: rest =>
    if part.low ≤ b.toNat ∧ b.toNat ≤ part.high then
      match nextOctet part b.toNat with
      | (_, some part) => decodeFaultFrom position (some (part, first, more + 1)) rest
      | (_, none) => decodeFaultFrom (position + more + 2) none rest
    else some ⟨position, first, more, .badContinuation⟩

def decodeStrictly (bytes : List UInt8) : Except DecodeFault String :=
  match decodeFaultFrom 0 none bytes with
  | some fault => .error fault
  | none => .ok (decode bytes)

def encode (s : String) : List UInt8 := s.toUTF8.toList

end ClassChart.Text

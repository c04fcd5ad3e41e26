import DeviceIdentity.Bytes

/-!
# Hexadecimal text

* `Hex.encode` writes two lowercase digits an octet.
* `Hex.decode` reads digits of either case and says what is wrong with anything else.

Main statement: `Hex.digitValue?_digit`, a written digit reads back as itself.
-/

namespace DeviceIdentity

namespace Hex

/-- The lowercase hexadecimal digit of a number below sixteen. -/
def digit (n : Nat) : Char :=
  if n < 10 then Char.ofNat (48 + n) else Char.ofNat (87 + n)

/-- The value of a hexadecimal digit of either case. -/
def digitValue? (c : Char) : Option Nat :=
  if '0' ≤ c ∧ c ≤ '9' then some (c.toNat - 48)
  else if 'a' ≤ c ∧ c ≤ 'f' then some (c.toNat - 87)
  else if 'A' ≤ c ∧ c ≤ 'F' then some (c.toNat - 55)
  else none

/-- A written digit reads back as itself. -/
theorem digitValue?_digit : ∀ n < 16, digitValue? (digit n) = some n := by
  decide

/-- The two digits of an octet. -/
def octet (b : UInt8) : List Char :=
  [digit (b.toNat / 16), digit (b.toNat % 16)]

/-- Two lowercase digits for each octet. -/
def encode (bs : Bytes) : String :=
  String.ofList (bs.flatMap octet)

/-- What can be wrong with hexadecimal text. -/
inductive Malformed where
  /-- The number of octets of the text is odd. -/
  | oddLength
  /-- The octet `value` at `position` is no digit. -/
  | badDigit (value : UInt8) (position : Nat)
  deriving DecidableEq, Repr

/-- Reads the digits at `position` and after it, two at a time. -/
def decodePairs : (position : Nat) → Bytes → Except Malformed Bytes
  | position, hi :: lo :: rest =>
    match digitValue? (Char.ofNat hi.toNat), digitValue? (Char.ofNat lo.toNat) with
    | none, _ => .error (.badDigit hi position)
    | some _, none => .error (.badDigit lo (position + 1))
    | some h, some l =>
      (decodePairs (position + 2) rest).map (UInt8.ofNat (16 * h + l) :: ·)
  | _, _ => .ok []

/-- The octets that hexadecimal `text` spells.  An odd number of octets is reported before any bad
digit, and of several bad digits the first. -/
def decode (text : String) : Except Malformed Bytes :=
  let octets := Bytes.ofText text
  if octets.length % 2 = 1 then .error .oddLength else decodePairs 0 octets

end Hex

end DeviceIdentity

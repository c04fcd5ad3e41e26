import DeviceIdentity.Bytes.Hex

/-!
# Numerals

Natural numbers as text in a radix up to sixteen.

* `Numeral.read?` reads one or more digits; `Numeral.readSigned?` lets one plus sign precede them.
* `Numeral.readInteger?` lets a plus or a minus sign precede them.
* `Numeral.lowerHex` writes a number in lowercase hexadecimal without leading zeros.
-/

namespace DeviceIdentity

namespace Numeral

/-- The value of `c` as a digit in `radix`. -/
def digit? (radix : Nat) (c : Char) : Option Nat :=
  (Hex.digitValue? c).filter (· < radix)

/-- Reads the digits of `cs` onto the number `n` read before them. -/
def extend? (radix : Nat) : (n : Nat) → List Char → Option Nat
  | n, [] => some n
  | n, c :: cs =>
    match digit? radix c with
    | some d => extend? radix (radix * n + d) cs
    | none => none

/-- The number that one or more digits spell. -/
def read? (radix : Nat) (cs : List Char) : Option Nat :=
  if cs.isEmpty then none else extend? radix 0 cs

/-- The number that an optional plus sign and one or more digits spell. -/
def readSigned? (radix : Nat) : List Char → Option Nat
  | '+' :: cs => read? radix cs
  | cs => read? radix cs

/-- The integer that an optional sign and one or more digits spell. -/
def readInteger? (radix : Nat) : List Char → Option Int
  | '-' :: cs => (read? radix cs).map fun n => -(n : Int)
  | cs => (readSigned? radix cs).map fun n => (n : Int)

/-- Lowercase hexadecimal digits of `n`, without leading zeros. -/
def lowerHex (n : Nat) : String :=
  String.ofList (Nat.toDigits 16 n)

end Numeral

end DeviceIdentity

import DeviceIdentity.Bytes
import DeviceIdentity.Ieee.Decimal

/-!
# Single-precision numbers

A `Single` is a bit pattern of single precision.  Patterns are kept as they are, so that every value
that is not a number survives being signed and verified; arithmetic goes through `Single.value`.

* `Single.text` writes the fewest digits that read back, without an exponent.
* `Single.fixed` writes a number of places.
* `Single.read?` reads decimal text.
* `Single.toOctets`, `Single.ofOctets?` are the four octets, the least significant first.

Main statement: `Single.ofOctets?_toOctets`, the octets of a number give it back.
-/

namespace DeviceIdentity

/-- A bit pattern of single precision. -/
structure Single where
  /-- The pattern. -/
  bits : UInt32
  deriving DecidableEq, Repr

namespace Single

open Ieee (BinaryFormat Datum)

/-- The number that a pattern denotes, for arithmetic. -/
def value (x : Single) : Float32 := Float32.ofBits x.bits

/-- The pattern of a number. -/
def ofValue (value : Float32) : Single := ⟨value.toBits⟩

/-- What the pattern denotes, exactly. -/
def datum (x : Single) : Datum := BinaryFormat.single.decode x.bits.toNat

/-- The single-precision number nearest to the double-precision number of pattern `bits`.  What is
not a number stays so, with a sign and a fraction that are left open, as
`Ieee.BinaryFormat.encode` says. -/
def ofDouble (bits : UInt64) : Single :=
  ⟨UInt32.ofNat (BinaryFormat.double.convert .single bits.toNat)⟩

/-- A minus sign where the sign is negative. -/
def minus (negative : Bool) : String := if negative then "-" else ""

/-- Writes the words for what has no digits, and finite values by `digits`. -/
def textWith (digits : (significand : Nat) → (exponent : Int) → String) (x : Single) : String :=
  match x.datum with
  | .nan => "NaN"
  | .infinite negative => minus negative ++ "inf"
  | .finite negative significand exponent => minus negative ++ digits significand exponent

/-- The fewest digits that read back as the number, without an exponent. -/
def text (x : Single) : String :=
  x.textWith fun significand exponent =>
    if significand = 0 then "0"
    else (Ieee.Decimal.shortest .single significand exponent).plain

/-- The number with `places` digits after the point. -/
def fixed (places : Nat) (x : Single) : String :=
  x.textWith fun significand exponent =>
    Ieee.Decimal.fixed places (significand * 2 ^ exponent.toNat) (2 ^ (-exponent).toNat)

/-- The number nearest to what decimal text denotes. -/
def read? (text : String) : Option Single :=
  (Ieee.Numeric.read? text).map fun numeric => ⟨UInt32.ofNat (numeric.toBits .single)⟩

/-- The four octets of the pattern, the least significant first. -/
def toOctets (x : Single) : Bytes := Bytes.ofNatLE 4 x.bits.toNat

/-- The number whose pattern four octets give. -/
def ofOctets? (octets : Bytes) : Option Single :=
  if octets.length = 4 then some ⟨UInt32.ofNat (Bytes.toNatLE octets)⟩ else none

/-- The octets of a number give it back. -/
@[simp] theorem ofOctets?_toOctets (x : Single) : ofOctets? x.toOctets = some x := by
  have h : x.bits.toNat % 256 ^ 4 = x.bits.toNat := Nat.mod_eq_of_lt x.bits.toNat_lt
  rw [ofOctets?, if_pos (by simp [toOctets, Bytes.ofNatLE]), toOctets, Bytes.toNatLE,
    Bytes.ofNatLE, List.reverse_reverse, Bytes.toNat_ofNat, h, UInt32.ofNat_toNat]

end Single

end DeviceIdentity

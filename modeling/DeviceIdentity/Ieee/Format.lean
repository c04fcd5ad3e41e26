/-!
# Binary floating-point formats

A `BinaryFormat` is given by the widths of its exponent and fraction fields.  A bit pattern of the
format denotes a `Datum`: not a number, an infinity, or an exact finite value, which is a natural
number times a power of two with a sign.

* `BinaryFormat.decode` says what a pattern denotes.
* `BinaryFormat.ofRatio` gives the pattern nearest to a quotient of natural numbers; of two equally
  near, the one with the even significand.
* `BinaryFormat.convert` carries a value from one format to another.

Main statements: `roundQuotient_spec`, the rounded quotient is within half a unit, and
`roundQuotient_mul`, a quotient without remainder is left alone.
-/

namespace DeviceIdentity

namespace Ieee

/-- `n / d` rounded to the nearest natural number, a tie to the even neighbour. -/
def roundQuotient (n d : Nat) : Nat :=
  let k := n / d
  let twice := 2 * (n % d)
  if twice < d then k
  else if d < twice then k + 1
  else if k % 2 = 0 then k else k + 1

/-- The rounded quotient is within half a unit of the exact one. -/
theorem roundQuotient_spec (n : Nat) {d : Nat} (hd : 0 < d) :
    2 * n ≤ 2 * (roundQuotient n d * d) + d ∧ 2 * (roundQuotient n d * d) ≤ 2 * n + d := by
  have h := Nat.div_add_mod n d
  have hc : d * (n / d) = n / d * d := Nat.mul_comm _ _
  unfold roundQuotient
  simp only
  split
  · constructor <;> omega
  split
  · rw [Nat.add_mul, Nat.one_mul]
    have := Nat.mod_lt n hd
    constructor <;> omega
  split
  · constructor <;> omega
  · rw [Nat.add_mul, Nat.one_mul]
    constructor <;> omega

/-- A quotient without remainder is left alone. -/
theorem roundQuotient_mul (k : Nat) {d : Nat} (h : 0 < d) : roundQuotient (k * d) d = k := by
  simp [roundQuotient, h]

/-- What a bit pattern denotes. -/
inductive Datum where
  /-- Not a number. -/
  | nan
  /-- An infinity. -/
  | infinite (negative : Bool)
  /-- The value `significand * 2 ^ exponent`, with a sign that zero has too. -/
  | finite (negative : Bool) (significand : Nat) (exponent : Int)
  deriving DecidableEq, Repr

/-- The field widths of a binary format. -/
structure BinaryFormat where
  /-- Bits of the fraction. -/
  fractionBits : Nat
  /-- Bits of the biased exponent. -/
  exponentBits : Nat
  deriving DecidableEq, Repr

namespace BinaryFormat

/-- Half precision. -/
def half : BinaryFormat := ⟨10, 5⟩

/-- Single precision. -/
def single : BinaryFormat := ⟨23, 8⟩

/-- Double precision. -/
def double : BinaryFormat := ⟨52, 11⟩

/-- The greatest biased exponent, which marks infinities and what is not a number. -/
def topExponent (f : BinaryFormat) : Nat := 2 ^ f.exponentBits - 1

/-- The exponent of the smallest positive value. -/
def leastExponent (f : BinaryFormat) : Int :=
  2 - 2 ^ (f.exponentBits - 1) - f.fractionBits

/-- The pattern of the positive infinity. -/
def infinity (f : BinaryFormat) : Nat := f.topExponent * 2 ^ f.fractionBits

/-- The pattern of a quiet value that is not a number. -/
def quietNan (f : BinaryFormat) : Nat := f.infinity + 2 ^ (f.fractionBits - 1)

/-- The pattern whose sign bit alone may be set. -/
def sign (f : BinaryFormat) (negative : Bool) : Nat :=
  if negative then 2 ^ (f.fractionBits + f.exponentBits) else 0

/-- What a pattern denotes. -/
def decode (f : BinaryFormat) (bits : Nat) : Datum :=
  let fraction := bits % 2 ^ f.fractionBits
  let biased := bits / 2 ^ f.fractionBits % 2 ^ f.exponentBits
  let negative := bits / 2 ^ (f.fractionBits + f.exponentBits) % 2 == 1
  if biased = f.topExponent then
    if fraction = 0 then .infinite negative else .nan
  else if biased = 0 then .finite negative fraction f.leastExponent
  else .finite negative (2 ^ f.fractionBits + fraction) (f.leastExponent + (biased - 1 : Nat))

/-- The greatest `e` with `2 ^ e ≤ n / d`, for positive `n` and `d`. -/
def floorLog2 (n d : Nat) : Int :=
  let guess : Int := (n.log2 : Int) - d.log2
  if d * 2 ^ guess.toNat ≤ n * 2 ^ (-guess).toNat then guess else guess - 1

/-- The pattern of the value nearest to `n / d`, for positive `d`; values too great for the format
become infinite.  The exponent field is a carry above the significand, so rounding up to the next
power of two needs no case of its own. -/
def ofRatio (f : BinaryFormat) (negative : Bool) (n d : Nat) : Nat :=
  if n = 0 then f.sign negative
  else
    let exponent := max f.leastExponent (floorLog2 n d - f.fractionBits)
    let significand := roundQuotient (n * 2 ^ (-exponent).toNat) (d * 2 ^ exponent.toNat)
    let steps := (exponent - f.leastExponent).toNat
    f.sign negative + min f.infinity (steps * 2 ^ f.fractionBits + significand)

/-- The pattern in `f` of the value nearest to a datum.  Many patterns are not a number, and the
arithmetic leaves open what a conversion makes of the sign and the fraction of such a pattern.  Here
it makes the quiet one without a sign of all of them. -/
def encode (f : BinaryFormat) : Datum → Nat
  | .nan => f.quietNan
  | .infinite negative => f.sign negative + f.infinity
  | .finite negative significand exponent =>
    f.ofRatio negative (significand * 2 ^ exponent.toNat) (2 ^ (-exponent).toNat)

/-- Carries a value from one format to another. -/
def convert (source target : BinaryFormat) (bits : Nat) : Nat :=
  target.encode (source.decode bits)

end BinaryFormat

end Ieee

end DeviceIdentity

import DeviceIdentity.Bytes
import DeviceIdentity.P256.Point

/-!
# Points as octets

* `P256.Point.encode` writes a point as the octet `04` and its two coordinates.
* `P256.Point.decode?` reads that form; the compressed form, which has the first coordinate after
  an octet `02` or `03` that tells whether the second one is even or odd; and the compact form,
  which has the first coordinate after `05` and means the smaller of the two second coordinates.

Coordinates that are not reduced, points off the curve and the point at infinity are refused.
-/

namespace DeviceIdentity

namespace P256

/-- The coordinate that 32 octets spell, if it is reduced. -/
def coordinate? (octets : Bytes) : Option Coordinate :=
  let value := Bytes.toNat octets
  if octets.length = 32 ∧ value < p then some (Fin.ofNat p value) else none

/-- A number whose square is `y`, if there is one.  Since `p` leaves 3 modulo 4, a root is the power
of `y` to `(p + 1) / 4`. -/
def squareRoot? (y : Coordinate) : Option Coordinate :=
  let root := power y 256 ((p + 1) / 4)
  if root * root = y then some root else none

namespace Point

/-- The octet `04` and both coordinates; the point at infinity is one zero octet. -/
def encode : Point → Bytes
  | .infinity => [0x00]
  | .affine x y => 0x04 :: (Bytes.ofNat 32 x.val ++ Bytes.ofNat 32 y.val)

/-- The point with first coordinate `x` whose second coordinate is chosen by `pick` among the two
that are possible. -/
def lift? (octets : Bytes) (pick : Coordinate → Coordinate → Coordinate) : Option Point := do
  let x ← coordinate? octets
  let y ← squareRoot? (rightSide x)
  some (.affine x (pick y (-y)))

/-- The point that octets spell, in any of the three forms. -/
def decode? : Bytes → Option Point
  | [] => none
  | form :: octets =>
    if form = 0x04 then do
      let x ← coordinate? (octets.take 32)
      let y ← coordinate? (octets.drop 32)
      if onCurve x y then some (.affine x y) else none
    else if form = 0x02 then lift? octets fun y z => if y.val % 2 = 0 then y else z
    else if form = 0x03 then lift? octets fun y z => if y.val % 2 = 1 then y else z
    else if form = 0x05 then lift? octets fun y z => if y ≤ z then y else z
    else none

end Point

end P256

end DeviceIdentity

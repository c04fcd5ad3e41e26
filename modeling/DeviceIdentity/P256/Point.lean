/-!
# The curve P-256

The curve `y ^ 2 = x ^ 3 - 3 x + b` over the field of `P256.p` elements, and its group of points.
Sums are computed on triples `(x, y, z)` that stand for the point `(x / z ^ 2, y / z ^ 3)`, or for
the point at infinity when `z` is zero, so that only the last step has to divide.

* `P256.Point` is a point: infinity, or two coordinates.
* `P256.Triple.double`, `P256.Triple.add` are the group law on triples.
* `P256.multiply` is repeated addition.
-/

namespace DeviceIdentity

namespace P256

/-- The number of elements of the field. -/
def p : Nat := 0xffffffff00000001000000000000000000000000ffffffffffffffffffffffff

/-- The number of points of the group. -/
def n : Nat := 0xffffffff00000000ffffffffffffffffbce6faada7179e84f3b9cac2fc632551

instance : @NeZero Nat Zero.ofOfNat0 p := ⟨by decide⟩

instance : @NeZero Nat Zero.ofOfNat0 n := ⟨by decide⟩

/-- The field of coordinates. -/
abbrev Coordinate : Type := Fin p

/-- The numbers modulo the order of the group. -/
abbrev Scalar : Type := Fin n

/-- `x ^ k` by squaring, where `k` has at most `bits` binary digits. -/
def power {m : Nat} [@NeZero Nat Zero.ofOfNat0 m] (x : Fin m) : (bits k : Nat) → Fin m
  | 0, _ => Fin.ofNat m 1
  | bits + 1, k =>
    let half := power x bits (k / 2)
    if k % 2 = 1 then half * half * x else half * half

/-- The inverse of `x` modulo a prime; of zero it is zero. -/
def inverse {m : Nat} [@NeZero Nat Zero.ofOfNat0 m] (x : Fin m) : Fin m :=
  power x 256 (m - 2)

/-- The constant of the curve's equation. -/
def b : Coordinate :=
  Fin.ofNat p 0x5ac635d8aa3a93e7b3ebbd55769886bc651d06b0cc53b0f63bce3c3e27d2604b

/-- A point of the curve. -/
inductive Point where
  /-- The point at infinity. -/
  | infinity
  /-- The point with two coordinates. -/
  | affine (x y : Coordinate)
  deriving DecidableEq, Repr

/-- The right side of the curve's equation. -/
def rightSide (x : Coordinate) : Coordinate :=
  x * x * x - (x + x + x) + b

/-- Whether the coordinates satisfy the curve's equation. -/
def onCurve (x y : Coordinate) : Bool :=
  y * y = rightSide x

/-- The point that generates the group. -/
def generator : Point :=
  .affine
    (Fin.ofNat p 0x6b17d1f2e12c4247f8bce6e563a440f277037d812deb33a0f4a13945d898c296)
    (Fin.ofNat p 0x4fe342e2fe1a7f9b8ee7eb4a7c0f9e162bce33576b315ececbb6406837bf51f5)

/-- A point as `(x / z ^ 2, y / z ^ 3)`, or infinity when `z` is zero. -/
structure Triple where
  /-- The first coordinate times `z ^ 2`. -/
  x : Coordinate
  /-- The second coordinate times `z ^ 3`. -/
  y : Coordinate
  /-- The common denominator. -/
  z : Coordinate
  deriving DecidableEq, Repr

namespace Triple

/-- The point at infinity. -/
def infinity : Triple := ⟨1, 1, 0⟩

/-- The triple of a point. -/
def ofPoint : Point → Triple
  | .infinity => infinity
  | .affine x y => ⟨x, y, 1⟩

/-- The point of a triple. -/
def toPoint (t : Triple) : Point :=
  if t.z = 0 then .infinity
  else
    let u := inverse t.z
    let uu := u * u
    .affine (t.x * uu) (t.y * (uu * u))

/-- A point added to itself. -/
def double (t : Triple) : Triple :=
  let yy := t.y * t.y
  let zz := t.z * t.z
  let s := t.x * yy
  let s4 := s + s + (s + s)
  let w := (t.x - zz) * (t.x + zz)
  let m := w + w + w
  let x := m * m - (s4 + s4)
  let yyyy := yy * yy
  let yyyy4 := yyyy + yyyy + (yyyy + yyyy)
  let yz := t.y * t.z
  ⟨x, m * (s4 - x) - (yyyy4 + yyyy4), yz + yz⟩

/-- The sum of two points. -/
def add (s t : Triple) : Triple :=
  if s.z = 0 then t
  else if t.z = 0 then s
  else
    let ss := s.z * s.z
    let tt := t.z * t.z
    let u1 := s.x * tt
    let u2 := t.x * ss
    let v1 := s.y * (tt * t.z)
    let v2 := t.y * (ss * s.z)
    if u1 = u2 then
      if v1 = v2 then double s else infinity
    else
      let h := u2 - u1
      let r := v2 - v1
      let hh := h * h
      let hhh := hh * h
      let c := u1 * hh
      let x := r * r - hhh - (c + c)
      ⟨x, r * (c - x) - v1 * hhh, h * (s.z * t.z)⟩

/-- `k` times a point, where `k` has at most `bits` binary digits. -/
def multiply (t : Triple) : (bits k : Nat) → Triple
  | 0, _ => infinity
  | bits + 1, k =>
    let half := multiply t bits (k / 2)
    if k % 2 = 1 then (double half).add t else double half

end Triple

/-- `k` times a point. -/
def multiply (k : Scalar) (q : Point) : Point :=
  ((Triple.ofPoint q).multiply 256 k.val).toPoint

/-- `j` times the generator plus `k` times a point. -/
def combine (j k : Scalar) (q : Point) : Point :=
  (((Triple.ofPoint generator).multiply 256 j.val).add
    ((Triple.ofPoint q).multiply 256 k.val)).toPoint

end P256

end DeviceIdentity

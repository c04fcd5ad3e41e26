import DeviceIdentity.Ieee.Format
import DeviceIdentity.Text.Numeral

/-!
# Binary values as decimal text

* `Decimal.shortest` finds the fewest decimal digits that still read back as a given value, and of
  those the nearest to it: it tests, on the grids of one digit, two digits and so on, the two
  neighbours of the value, and the first grid with a hit wins.  An exact tie goes up.
* `Decimal.plain` writes digits and a power of ten without an exponent.
* `Decimal.fixed` rounds a quotient to a number of places, a tie to the even neighbour.
* `Numeric.read?` reads decimal text: a sign, digits with a point, and an exponent.
-/

namespace DeviceIdentity

namespace Ieee

/-- A decimal number: `digits * 10 ^ exponent`. -/
structure Decimal where
  /-- The digits as one number. -/
  digits : Nat
  /-- The power of ten they are multiplied by. -/
  exponent : Int
  deriving DecidableEq, Repr

namespace Decimal

/-- How many more places `n` has to be shifted to reach `d`, counted within `fuel` steps. -/
def placesBelow (d : Nat) : (fuel n : Nat) → Nat
  | 0, _ => 0
  | fuel + 1, n => if d ≤ n then 0 else placesBelow d fuel (10 * n) + 1

/-- The greatest `k` with `10 ^ k ≤ n / d`, for positive `n` and `d`.  Below one, each place gained
outweighs three bits of `d`, so its bit length bounds the count. -/
def floorLog10 (n d : Nat) : Int :=
  if d ≤ n then ((Nat.toDigits 10 (n / d)).length : Int) - 1
  else -(placesBelow d (d.log2 + 1) n : Int)

/-- A positive value and the bounds between which a decimal reads back as it, all over one common
denominator. -/
structure Neighbourhood where
  /-- The value. -/
  value : Nat
  /-- The lower bound. -/
  lower : Nat
  /-- The upper bound. -/
  upper : Nat
  /-- The common denominator. -/
  denominator : Nat
  /-- Whether the bounds themselves read back as the value. -/
  closed : Bool
  deriving DecidableEq, Repr

/-- The neighbourhood of `significand * 2 ^ exponent` in a format.  Below a power of two the next
value is only half as far away, unless the exponent is already the least one. -/
def Neighbourhood.of (f : BinaryFormat) (significand : Nat) (exponent : Int) : Neighbourhood :=
  let below := if significand = 2 ^ f.fractionBits ∧ f.leastExponent < exponent then 1 else 2
  let shift := 2 ^ exponent.toNat
  { value := 4 * significand * shift
    lower := (4 * significand - below) * shift
    upper := (4 * significand + 2) * shift
    denominator := 4 * 2 ^ (-exponent).toNat
    closed := significand % 2 == 0 }

/-- Whether `digits * 10 ^ exponent` lies in the neighbourhood. -/
def Neighbourhood.holds (h : Neighbourhood) (decimal : Decimal) : Bool :=
  let point := decimal.digits * 10 ^ decimal.exponent.toNat * h.denominator
  let scale := 10 ^ (-decimal.exponent).toNat
  if h.closed then h.lower * scale ≤ point && point ≤ h.upper * scale
  else h.lower * scale < point && point < h.upper * scale

/-- The hit on the grid of multiples of `10 ^ exponent`, if there is one: of the value's two
neighbours the one in the neighbourhood, of two the nearer, and of two equally near the upper. -/
def Neighbourhood.hit? (h : Neighbourhood) (exponent : Int) : Option Decimal :=
  let n := h.value * 10 ^ (-exponent).toNat
  let d := h.denominator * 10 ^ exponent.toNat
  let below : Decimal := ⟨n / d, exponent⟩
  let above : Decimal := ⟨n / d + 1, exponent⟩
  match h.holds below, h.holds above with
  | true, true => some (if 2 * (n % d) < d then below else above)
  | true, false => some below
  | false, true => some above
  | false, false => none

/-- The first hit on the grids of `exponent` and the finer ones, within `fuel` grids. -/
def Neighbourhood.firstHit (h : Neighbourhood) : (fuel : Nat) → (exponent : Int) → Decimal
  | 0, exponent => ⟨h.value / h.denominator, exponent⟩
  | fuel + 1, exponent =>
    match h.hit? exponent with
    | some decimal => decimal
    | none => h.firstHit fuel (exponent - 1)

/-- Removes the zeros at the end of the digits, within `fuel` steps. -/
def stripZeros : (fuel : Nat) → Decimal → Decimal
  | 0, decimal => decimal
  | fuel + 1, decimal =>
    if decimal.digits ≠ 0 ∧ decimal.digits % 10 = 0 then
      stripZeros fuel ⟨decimal.digits / 10, decimal.exponent + 1⟩
    else decimal

/-- The fewest digits that read back as `significand * 2 ^ exponent`, which is positive; of those
the nearest, and of two equally near the upper.  Twenty grids are more than any format up to double
precision needs. -/
def shortest (f : BinaryFormat) (significand : Nat) (exponent : Int) : Decimal :=
  let h := Neighbourhood.of f significand exponent
  stripZeros 20 (h.firstHit 20 (floorLog10 h.value h.denominator))

/-- The digits with a point before the last `places` of them. -/
def withPoint (digits places : Nat) : String :=
  let shown := Nat.toDigits 10 digits
  let padded := List.replicate (places + 1 - shown.length) '0' ++ shown
  let whole := padded.take (padded.length - places)
  let part := padded.drop (padded.length - places)
  String.ofList (if places = 0 then whole else whole ++ '.' :: part)

/-- The decimal without an exponent. -/
def plain (decimal : Decimal) : String :=
  withPoint (decimal.digits * 10 ^ decimal.exponent.toNat) (-decimal.exponent).toNat

/-- `n / d` with `places` digits after the point. -/
def fixed (places n d : Nat) : String :=
  withPoint (roundQuotient (n * 10 ^ places) d) places

end Decimal

/-! ## Reading -/

/-- Decimal text that denotes a number, an infinity, or something that is not a number. -/
inductive Numeric where
  /-- Not a number. -/
  | nan (negative : Bool)
  /-- An infinity. -/
  | infinite (negative : Bool)
  /-- A decimal number with a sign. -/
  | decimal (negative : Bool) (number : Decimal)
  deriving DecidableEq, Repr

namespace Numeric

/-- The exponent after the digits: none, or `e` and an integer. -/
def readExponent? : List Char → Option Int
  | [] => some 0
  | c :: cs => if c = 'e' ∨ c = 'E' then Numeral.readInteger? 10 cs else none

/-- Digits with at most one point, of which one digit at least, and an exponent. -/
def readDecimal? (cs : List Char) : Option Decimal :=
  let isDigit := fun c : Char => c.isDigit
  let whole := cs.takeWhile isDigit
  let rest := cs.dropWhile isDigit
  let part := match rest with
    | '.' :: after => after.takeWhile isDigit
    | _ => []
  let after := match rest with
    | '.' :: after => after.dropWhile isDigit
    | other => other
  match Numeral.read? 10 (whole ++ part), readExponent? after with
  | some digits, some exponent => some ⟨digits, exponent - part.length⟩
  | _, _ => none

/-- What follows the sign. -/
def readMagnitude? (negative : Bool) (cs : List Char) : Option Numeric :=
  match readDecimal? cs with
  | some number => some (.decimal negative number)
  | none =>
    let word := String.ofList (cs.map Char.toLower)
    if word = "inf" ∨ word = "infinity" then some (.infinite negative)
    else if word = "nan" then some (.nan negative)
    else none

/-- Reads a number, or one of the words `inf`, `infinity` and `nan` in letters of either case, after
an optional sign. -/
def read? (text : String) : Option Numeric :=
  match text.toList with
  | '-' :: cs => readMagnitude? true cs
  | '+' :: cs => readMagnitude? false cs
  | cs => readMagnitude? false cs

/-- The pattern of the value nearest to what was read.  A number of more than `reach` places before
or after the point is infinite or zero in the format, whatever its digits. -/
def toBits (f : BinaryFormat) : Numeric → Nat
  | nan negative => f.sign negative + f.quietNan
  | infinite negative => f.sign negative + f.infinity
  | decimal negative number =>
    let places : Int := (Nat.toDigits 10 number.digits).length + number.exponent
    let reach : Int := 2 ^ f.exponentBits + f.fractionBits
    if number.digits = 0 ∨ places < -reach then f.sign negative
    else if reach < places then f.sign negative + f.infinity
    else f.ofRatio negative (number.digits * 10 ^ number.exponent.toNat)
      (10 ^ (-number.exponent).toNat)

end Numeric

end Ieee

end DeviceIdentity

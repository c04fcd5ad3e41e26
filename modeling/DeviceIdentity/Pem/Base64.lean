import DeviceIdentity.Bytes

/-!
# Base64

Three octets are written as four characters of a fixed alphabet; a last group of one or two octets
is padded with `=` to four characters.  Reading accepts the padded form alone, and refuses unused
bits that are not zero, so each string of octets has one written form.

Main statement: `Base64.value?_symbol`, a written sextet reads back as itself.
-/

namespace DeviceIdentity

namespace Base64

/-- The character of a number below 64. -/
def symbol (n : Nat) : Char :=
  if n < 26 then Char.ofNat (65 + n)
  else if n < 52 then Char.ofNat (71 + n)
  else if n < 62 then Char.ofNat (n - 4)
  else if n = 62 then '+' else '/'

/-- The number of a character of the alphabet. -/
def value? (c : Char) : Option Nat :=
  if 'A' ≤ c ∧ c ≤ 'Z' then some (c.toNat - 65)
  else if 'a' ≤ c ∧ c ≤ 'z' then some (c.toNat - 71)
  else if '0' ≤ c ∧ c ≤ '9' then some (c.toNat + 4)
  else if c = '+' then some 62
  else if c = '/' then some 63
  else none

/-- A written sextet reads back as itself. -/
theorem value?_symbol : ∀ n < 64, value? (symbol n) = some n := by
  decide

/-- Four characters for every three octets. -/
def encode : Bytes → List Char
  | a :: b :: c :: rest =>
    symbol (a.toNat / 4) :: symbol (a.toNat % 4 * 16 + b.toNat / 16) ::
      symbol (b.toNat % 16 * 4 + c.toNat / 64) :: symbol (c.toNat % 64) :: encode rest
  | [a, b] =>
    [symbol (a.toNat / 4), symbol (a.toNat % 4 * 16 + b.toNat / 16), symbol (b.toNat % 16 * 4), '=']
  | [a] => [symbol (a.toNat / 4), symbol (a.toNat % 4 * 16), '=', '=']
  | [] => []

/-- The octets of a padded text, if its unused bits are zero. -/
def decode : List Char → Option Bytes
  | [] => some []
  | [c, d, '=', '='] => do
    let p ← value? c
    let q ← value? d
    if q % 16 = 0 then some [UInt8.ofNat (p * 4 + q / 16)] else none
  | [c, d, e, '='] => do
    let p ← value? c
    let q ← value? d
    let r ← value? e
    if r % 4 = 0 then
      some [UInt8.ofNat (p * 4 + q / 16), UInt8.ofNat (q % 16 * 16 + r / 4)]
    else none
  | c :: d :: e :: f :: rest => do
    let p ← value? c
    let q ← value? d
    let r ← value? e
    let s ← value? f
    let more ← decode rest
    some (UInt8.ofNat (p * 4 + q / 16) :: UInt8.ofNat (q % 16 * 16 + r / 4) ::
      UInt8.ofNat (r % 4 * 64 + s) :: more)
  | _ => none

end Base64

end DeviceIdentity

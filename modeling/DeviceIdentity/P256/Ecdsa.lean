import DeviceIdentity.Hash.Hmac
import DeviceIdentity.P256.Sec1

/-!
# ECDSA on P-256 with SHA-256

A private key is a number below the order of the group and not zero; its public key is that
multiple of the generator.  A signature is a pair of such numbers, kept as 64 octets.

* `Ecdsa.sign` signs a message with a nonce that is derived from the key and the message, so a
  message has one signature under a key.
* `Ecdsa.verify` checks a pair against a message and a public key.  Both values of the second number
  that verify are accepted.
-/

namespace DeviceIdentity

namespace Ecdsa

open P256 (Point Scalar)

/-- The length of a signature. -/
def signatureLength : Nat := 64

/-- The number that 32 octets spell, if it is neither zero nor too great. -/
def scalar? (octets : Bytes) : Option Scalar :=
  let value := Bytes.toNat octets
  if octets.length = 32 ∧ value ≠ 0 ∧ value < P256.n then some (Fin.ofNat P256.n value) else none

/-- The 32 octets of a number. -/
def scalarOctets (k : Scalar) : Bytes := Bytes.ofNat 32 k.val

/-- A private key. -/
structure PrivateKey where
  /-- The secret number. -/
  scalar : Scalar
  /-- It is not zero. -/
  ne_zero : scalar ≠ 0

instance : DecidableEq PrivateKey := fun a b =>
  decidable_of_iff (a.scalar = b.scalar) (by cases a; cases b; simp)

namespace PrivateKey

/-- The private key of 32 octets, if their number is neither zero nor too great. -/
def ofOctets? (octets : Bytes) : Option PrivateKey :=
  (scalar? octets).bind fun k => if h : k ≠ 0 then some ⟨k, h⟩ else none

/-- The point of the public key. -/
def point (key : PrivateKey) : Point :=
  P256.multiply key.scalar P256.generator

end PrivateKey

/-- The number of a message: its digest, reduced. -/
def messageNumber (message : Bytes) : Scalar :=
  Fin.ofNat P256.n (Bytes.toNat (Sha256.hash message))

/-- The state of the generator of nonces: a key and a value. -/
structure Drbg where
  /-- The key. -/
  key : Bytes
  /-- The value. -/
  value : Bytes
  deriving DecidableEq, Repr

namespace Drbg

/-- Mixes `data` into the state, marked with an octet. -/
def mix (s : Drbg) (mark : UInt8) (data : Bytes) : Drbg :=
  let key := Hmac.mac s.key (s.value ++ mark :: data)
  ⟨key, Hmac.mac key s.value⟩

/-- The state seeded with a private key and a reduced digest. -/
def seed (key : PrivateKey) (message : Bytes) : Drbg :=
  let data := scalarOctets key.scalar ++ scalarOctets (messageNumber message)
  let start : Drbg := ⟨List.replicate 32 0x00, List.replicate 32 0x01⟩
  (start.mix 0x00 data).mix 0x01 data

/-- The next value. -/
def next (s : Drbg) : Drbg :=
  ⟨s.key, Hmac.mac s.key s.value⟩

/-- The state for another attempt. -/
def again (s : Drbg) : Drbg := s.mix 0x00 []

end Drbg

/-- The pair that a nonce gives, if neither number is zero. -/
def pair? (key : PrivateKey) (message : Bytes) (nonce : Scalar) : Option (Scalar × Scalar) :=
  match P256.multiply nonce P256.generator with
  | .infinity => none
  | .affine x _ =>
    let r : Scalar := Fin.ofNat P256.n x.val
    let s := P256.inverse nonce * (messageNumber message + r * key.scalar)
    if r = 0 ∨ s = 0 then none else some (r, s)

/-- The nonce that the generator gives, within `attempts`. -/
def nonce? : (attempts : Nat) → Drbg → Option Scalar
  | 0, _ => none
  | attempts + 1, s =>
    let s := s.next
    match scalar? s.value with
    | some k => some k
    | none => nonce? attempts s.again

/-- The signature of a message, as 64 octets.  A value of the generator misses the range of nonces
with a chance below `2 ^ -32`, so no message is known that needs a second attempt. -/
def sign (key : PrivateKey) (message : Bytes) : Option Bytes := do
  let nonce ← nonce? 64 (Drbg.seed key message)
  let (r, s) ← pair? key message nonce
  some (scalarOctets r ++ scalarOctets s)

/-- The two numbers of a signature, if both are in range. -/
def parse? (signature : Bytes) : Option (Scalar × Scalar) := do
  let r ← scalar? (signature.take 32)
  let s ← scalar? (signature.drop 32)
  some (r, s)

/-- Whether a pair signs a message under a public key. -/
def verify (holder : Point) (message : Bytes) (pair : Scalar × Scalar) : Bool :=
  let (r, s) := pair
  let w := P256.inverse s
  match P256.combine (messageNumber message * w) (r * w) holder with
  | .infinity => false
  | .affine x _ => Fin.ofNat P256.n x.val = r

end Ecdsa

end DeviceIdentity

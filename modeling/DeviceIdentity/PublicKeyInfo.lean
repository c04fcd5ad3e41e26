import DeviceIdentity.Der.Write
import DeviceIdentity.Pem.Armor

/-!
# Public keys in DER and PEM

A raw public key of P-256 is the octet `04` before its two coordinates.  Certificates carry it as a
SubjectPublicKeyInfo: a sequence of the algorithm (elliptic curve key, on P-256) and the raw key as
a bit string.
-/

namespace DeviceIdentity

namespace PublicKeyInfo

/-- The length of a raw public key. -/
def rawLength : Nat := 65

/-- The encoded arcs of `id-ecPublicKey`. -/
def ecPublicKeyOid : Bytes := [0x2A, 0x86, 0x48, 0xCE, 0x3D, 0x02, 0x01]

/-- The encoded arcs of `prime256v1`. -/
def prime256v1Oid : Bytes := [0x2A, 0x86, 0x48, 0xCE, 0x3D, 0x03, 0x01, 0x07]

/-- The label of the armored form. -/
def pemLabel : String := "PUBLIC KEY"

/-- Writes the SubjectPublicKeyInfo of a raw key. -/
def write (raw : Bytes) : Der.Write Nat := do
  let key ← Der.bitString raw
  let curve ← Der.oid prime256v1Oid
  let kind ← Der.oid ecPublicKeyOid
  let algorithm := curve + kind
  let algorithmHead ← Der.sequenceHeader algorithm
  let body := key + (algorithm + algorithmHead)
  let head ← Der.sequenceHeader body
  return body + head

/-- The SubjectPublicKeyInfo of a raw key. -/
def der (raw : Bytes) : Except Failure Bytes :=
  let outcome := (write raw).run (Tail.zeros 128)
  match outcome.result with
  | .ok _ => .ok outcome.state.written
  | .error _ => .error .encodingFailed

/-- The SubjectPublicKeyInfo of a raw key, armored. -/
def pem (raw : Bytes) : Except Failure String :=
  (der raw).map (Pem.encode pemLabel)

end PublicKeyInfo

end DeviceIdentity

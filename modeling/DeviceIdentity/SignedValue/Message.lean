import DeviceIdentity.Action
import DeviceIdentity.Cbor.Reader
import DeviceIdentity.P256.Ecdsa
import DeviceIdentity.Single

/-!
# Signed values

A value is carried as the CBOR claim map `{-80000: octets}` with the four octets of the number.  A
signed value is a COSE_Sign1 message around such a payload:

```text
18([ {1: -7} as octets, {}, payload, signature ])
```

where `{1: -7}` says that the signature is made with ECDSA on P-256 and SHA-256.  The signature
covers the CBOR array `["Signature1", header, empty, payload]`.

* `SignedValue.payload`, `SignedValue.toBeSigned`, `SignedValue.sign1` write.
* `SignedValue.Parts.parse?`, `SignedValue.payloadValue?`, `SignedValue.verify` read and check.
-/

namespace DeviceIdentity

namespace SignedValue

/-! ## Writing -/

/-- The label of the claim that carries a value. -/
def valueClaim : Int := -80000

/-- The label of the algorithm in a header. -/
def algorithmLabel : Int := 1

/-- The algorithm: ECDSA with SHA-256. -/
def es256 : Int := -7

/-- The tag of a signed message. -/
def sign1Tag : UInt64 := 18

/-- The claim map of a value. -/
def payload (value : Single) : Bytes :=
  (CborItem.map [(.ofInt valueClaim, .bytes value.toOctets)]).encode

/-- The protected header. -/
def protectedHeader : Bytes :=
  (CborItem.map [(.ofInt algorithmLabel, .ofInt es256)]).encode

/-- The octets that a signature over a header and a payload covers. -/
def sigStructure (header payload : Bytes) : Bytes :=
  (CborItem.array [.text "Signature1", .bytes header, .bytes [], .bytes payload]).encode

/-- The octets that are signed for a payload. -/
def toBeSigned (payload : Bytes) : Bytes :=
  sigStructure protectedHeader payload

/-- The message of a payload and a signature. -/
def message (payload signature : Bytes) : Bytes :=
  (CborItem.tagged sign1Tag
    (.array [.bytes protectedHeader, .map [], .bytes payload, .bytes signature])).encode

/-- Wraps a payload in a message, signed by `sign`. -/
def sign1 {σ : Type} (payload : Bytes) (sign : Bytes → Action σ Bytes) : Action σ Bytes := do
  let signature ← sign (toBeSigned payload)
  return message payload signature

/-! ## Reading -/

/-- The value that a payload carries: the four octets of the first entry with the value's label in a
claim map, or a bare number of any width. -/
def payloadValue? (payload : Bytes) : Option Single := do
  match ← CborItem.readExactly? payload with
  | .float bits => some (Single.ofDouble bits)
  | .map entries =>
    match entries.find? fun entry => entry.1.isInt valueClaim with
    | some (_, .bytes octets) => Single.ofOctets? octets
    | _ => none
  | _ => none

/-- The parts of a message that are signed or sign. -/
structure Parts where
  /-- The protected header, as octets. -/
  header : Bytes
  /-- The payload. -/
  payload : Bytes
  /-- The signature. -/
  signature : Bytes
  deriving DecidableEq, Repr

/-- Whether an entry of a header names the algorithm. -/
def isEs256 (entry : CborItem × CborItem) : Bool :=
  entry.1.isInt algorithmLabel && entry.2.isInt es256

/-- Whether octets are a header that names the algorithm. -/
def isHeader (header : Bytes) : Bool :=
  match CborItem.readExactly? header with
  | some (.map entries) => entries.any isEs256
  | _ => false

/-- The parts of a tagged array of four. -/
def Parts.ofItem? : CborItem → Option Parts
  | .tagged tag (.array [.bytes header, .map _, .bytes payload, .bytes signature]) =>
    if tag = sign1Tag ∧ isHeader header ∧ signature.length = Ecdsa.signatureLength then
      some ⟨header, payload, signature⟩
    else none
  | _ => none

/-- The parts of a message. -/
def Parts.parse? (message : Bytes) : Option Parts :=
  (CborItem.readExactly? message).bind ofItem?

/-- Whether the signature of a message verifies under a public key. -/
def Parts.signedBy (parts : Parts) (holder : P256.Point) : Bool :=
  match Ecdsa.parse? parts.signature with
  | some pair => Ecdsa.verify holder (sigStructure parts.header parts.payload) pair
  | none => false

/-- Checks a message against a public key and gives the value that it carries.  The structure is
checked before the signature, and the signature before the payload is looked at. -/
def verify (message publicKey : Bytes) : Except Failure Single :=
  match P256.Point.decode? publicKey with
  | none => .error (.invalidInput "public key is not a P-256 point")
  | some holder =>
    match Parts.parse? message with
    | none => .error .malformedCose
    | some parts =>
      if parts.signedBy holder then
        match payloadValue? parts.payload with
        | some value => .ok value
        | none => .error .payloadDecodeFailed
      else .error .signatureInvalid

end SignedValue

end DeviceIdentity

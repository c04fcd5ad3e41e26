import DeviceIdentity.Json.Value
import DeviceIdentity.Key.Provision
import DeviceIdentity.PublicKeyInfo
import DeviceIdentity.SubjectName

/-!
# Certificate requests

A certificate request (PKCS#10) is a signed DER structure:

```text
SEQUENCE {
  SEQUENCE {                      -- the body
    INTEGER 0,
    Name,                         -- O=<organization>,CN=<uuid>,OU=<label>
    SubjectPublicKeyInfo,
    [0] {}
  },
  SEQUENCE { ecdsa-with-SHA256 },
  BIT STRING { SEQUENCE { INTEGER r, INTEGER s } }
}
```

A request is made in stages over one buffer: the body is written from the end of the buffer, signed
by the secure service, and then written again inside the complete request.  `CertRequest.Build`
keeps the buffer and the stages passed, so that a failure can be told from where it happened.

* `CertRequest.generateInto` makes a request in a given buffer.
* `CertRequest.generate` makes one in DER, as armored text, or in a JSON envelope.
-/

namespace DeviceIdentity

/-- The forms of a certificate request. -/
inductive RequestFormat where
  /-- Armored text. -/
  | pem
  /-- Plain octets. -/
  | der
  /-- A JSON object around the armored text. -/
  | json
  deriving DecidableEq, Repr

namespace RequestFormat

/-- The form that is used when none is asked for. -/
def preferred : RequestFormat := pem

/-- All forms. -/
def all : List RequestFormat := [pem, der, json]

/-- The name of a form. -/
def name : RequestFormat → String
  | pem => "pem"
  | der => "der"
  | json => "json"

/-- The form of a name. -/
def ofName? (name : String) : Option RequestFormat :=
  all.find? (·.name = name)

end RequestFormat

namespace CertRequest

/-! ## The parts of a request -/

/-- What requests call themselves in log records. -/
def logTarget : String := "huk_identity_core::csr"

/-- The label of the armored form. -/
def pemLabel : String := "CERTIFICATE REQUEST"

/-- The encoded arcs of `ecdsa-with-SHA256`. -/
def ecdsaWithSha256Oid : Bytes := [0x2A, 0x86, 0x48, 0xCE, 0x3D, 0x04, 0x03, 0x02]

/-- Writes the body of a request and returns its octets. -/
def writeBody (publicKey : Bytes) (subject : SubjectName) : Der.Write Bytes := do
  let attributes ← Der.header Der.context0Tag 0
  let key ← PublicKeyInfo.write publicKey
  let name ← subject.write
  let version ← Der.smallInteger 0
  let _ ← Der.sequenceHeader (attributes + key + name + version)
  Der.written

/-- Writes the complete request around a body and its raw signature. -/
def writeSigned (body signature : Bytes) : Der.Write Nat := do
  let pair ← Der.signature signature
  let bits ← Der.closeBitString pair
  let oid ← Der.oid ecdsaWithSha256Oid
  let algorithmHead ← Der.sequenceHeader oid
  let inner ← Der.raw body
  let content := bits + (oid + algorithmHead) + inner
  let head ← Der.sequenceHeader content
  return content + head

/-- The JSON envelope around an armored request. -/
def envelope (pem : String) : String :=
  (Json.object [("CSR", .text pem)]).print

/-! ## Making a request -/

/-- How far the making of a request has come. -/
inductive Stage where
  /-- Nothing has been done. -/
  | start
  /-- The subject is known and valid. -/
  | subjectBuilt
  /-- The body is encoded. -/
  | bodyEncoded
  /-- The body is signed. -/
  | signed
  /-- The request is complete. -/
  | assembled
  /-- The request is armored. -/
  | armored
  /-- The request is in the form asked for. -/
  | done
  /-- The making ended with a failure. -/
  | failed (cause : Failure)
  deriving DecidableEq, Repr

/-- The state in which requests are made, beside the state of the secure service. -/
structure Build (σ : Type) where
  /-- The state of the secure service. -/
  service : σ
  /-- The buffer. -/
  tail : Tail := Tail.zeros 0
  /-- The stages passed, the latest first. -/
  passed : List Stage := []

namespace Build

variable {σ : Type}

/-- The stage reached. -/
def stage (b : Build σ) : Stage := b.passed.head?.getD .start

/-- Passes to a stage. -/
def pass (stage : Stage) : Action (Build σ) Unit :=
  Action.modify fun b => { b with passed := stage :: b.passed }

/-- Runs a step of the secure service. -/
def call {α : Type} (step : Action σ α) : Action (Build σ) α :=
  step.within Build.service fun service b => { b with service }

/-- Writes into the buffer. -/
def write {α : Type} (step : Der.Write α) : Action (Build σ) α :=
  (step.mapFailure Failure.ofEncoding).within Build.tail fun tail b => { b with tail }

end Build

variable {σ : Type}

/-- What a caller sees when the public key cannot be had: a closed channel stays what it is, and
every other cause becomes `encodingFailed`. -/
def ofMissingKey : Failure → Failure
  | .transportUnavailable => .transportUnavailable
  | _ => .encodingFailed

/-- Finds the slot and makes its subject. -/
def subject (organization uuid : String) (id : KeyId) : Action (Build σ) SubjectName := do
  let slot ← Action.ofExcept (KeyTable.slot id)
  let subject ← Action.ofExcept (SubjectName.forDevice organization uuid slot.label)
  Action.log .info logTarget
    ("generating CSR for '" ++ slot.label ++ "', subject " ++ subject.text)
  Build.pass .subjectBuilt
  return subject

/-- Fetches the public key and writes the body. -/
def body (service : SecureService σ) (table : KeyTable) (id : KeyId) (subject : SubjectName) :
    Action (Build σ) Bytes := do
  let publicKey ← Build.call ((table.publicKey service id).mapFailure ofMissingKey)
  let body ← Build.write (writeBody publicKey subject)
  Build.pass .bodyEncoded
  return body

/-- Has the body signed. -/
def signature (service : SecureService σ) (id : KeyId) (body : Bytes) :
    Action (Build σ) Bytes := do
  let signature ← Build.call ((service.sign id body).mapFailure Failure.ofSigning)
  Build.pass .signed
  return signature

/-- Writes the complete request. -/
def assemble (body signature : Bytes) : Action (Build σ) Nat := do
  Build.write Der.reset
  let length ← Build.write (writeSigned body signature)
  Build.pass .assembled
  return length

/-- Makes a request for a key of the table in the buffer. -/
def build (service : SecureService σ) (table : KeyTable) (organization uuid : String)
    (id : KeyId) : Action (Build σ) Nat := do
  let subject ← subject organization uuid id
  let body ← body service table id subject
  let signature ← signature service id body
  assemble body signature

/-- Ends the making with a failure. -/
def abandon {α : Type} (cause : Failure) : Action (Build σ) α := do
  Action.log .error logTarget
    ("CSR generation failed: " ++ cause.label ++ " (" ++ toString cause.code ++ ")")
  Build.pass (.failed cause)
  Action.fail cause

/-- Makes a request for a key of the table at the end of `buffer`.  Returns its length. -/
def generateInto (service : SecureService σ) (table : KeyTable) (organization : String)
    (id : KeyId) (uuid : String) (buffer : Bytes) : Action (Build σ) Nat := do
  Action.modify fun b => { b with tail := Tail.ofBuffer buffer, passed := .start :: b.passed }
  match ← (build service table organization uuid id).attempt with
  | .ok length => return length
  | .error cause => abandon cause

/-- A complete request in another form. -/
def render (format : RequestFormat) (der : Bytes) : Action (Build σ) Bytes := do
  match format with
  | .der => return der
  | .pem =>
    Build.pass .armored
    return Bytes.ofText (Pem.encode pemLabel der)
  | .json =>
    Build.pass .armored
    return Bytes.ofText (envelope (Pem.encode pemLabel der))

/-- Makes a request for a key of the table, in a buffer of `size` octets, in the form asked for. -/
def generate (service : SecureService σ) (table : KeyTable) (organization : String) (size : Nat)
    (id : KeyId) (uuid : String) (format : RequestFormat) : Action (Build σ) Bytes := do
  let _ ← generateInto service table organization id uuid (List.replicate size 0)
  let der := (← Action.get).tail.written
  let out ← render format der
  Build.pass .done
  return out

end CertRequest

end DeviceIdentity

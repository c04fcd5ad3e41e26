import DeviceIdentity.Der.Header
import DeviceIdentity.SecureService
import DeviceIdentity.SignedValue.Message
import DeviceIdentity.Text.Quoted

/-!
# The emulated partition

`Partition` stands in for the isolated partition of a device.  Its hardware key is a secret of 32
octets from which everything is derived with HKDF, so one secret always gives the same identity.

Keys are stored under their identifiers and never replaced: importing the same key for the same
uses again is accepted, and any other import under a taken identifier fails.  Only a request body,
which is one DER sequence, or the octets of a signed value are ever signed.  The UUID is kept after
it has been derived, and forgotten when the label suffix is set.

`Partition.service` is the partition as a secure service.
-/

namespace DeviceIdentity

/-- A key that the partition holds. -/
structure StoredKey where
  /-- The private key. -/
  privateKey : Ecdsa.PrivateKey
  /-- What the key may be used for. -/
  usage : KeyUsage
  deriving DecidableEq

/-- The state of the partition. -/
structure Partition where
  /-- The hardware key. -/
  hardwareKey : Bytes
  /-- What is appended to every derivation label. -/
  labelSuffix : String := ""
  /-- Whether the partition can be reached. -/
  online : Bool := true
  /-- The keys, with the identifiers they are stored under. -/
  keys : List (KeyId × StoredKey) := []
  /-- The UUID, once it has been asked for. -/
  knownUuid : Option String := none

namespace Partition

/-- What the partition calls itself in log records. -/
def logTarget : String := "huk_identity_core::partition::emulated"

/-- The salt of every derivation. -/
def salt : Bytes := Bytes.ofText "huk-identity:huk-derivation"

/-- The fewest octets that can be derived at once. -/
def minDerivation : Nat := 16

/-- The most octets that can be derived at once. -/
def maxDerivation : Nat := 32

/-- The key stored under an identifier. -/
def key? (s : Partition) (id : KeyId) : Option StoredKey := s.keys.lookup id

/-- Lets the partition be reached or not. -/
def setOnline (online : Bool) (s : Partition) : Partition := { s with online }

/-- The partition with another label suffix, as it is set up.  All else is as it was. -/
def withLabelSuffix (suffix : String) (s : Partition) : Partition :=
  { s with labelSuffix := suffix }

/-- Replaces the label suffix, and forgets the UUID derived under the one before. -/
def setLabelSuffix (suffix : String) (s : Partition) : Partition :=
  { s with labelSuffix := suffix, knownUuid := none }

/-- A description that keeps the hardware key to itself. -/
def description (s : Partition) : String :=
  "EmulatedPartition \x7b huk: \"[REDACTED]\", label_suffix: " ++ Quoted.text s.labelSuffix ++
    ", online: " ++ (if s.online then "true" else "false") ++ ", .. \x7d"

/-- Fails when the partition cannot be reached. -/
def requireOnline : Action Partition Unit := do
  if (← Action.get).online then return () else Action.fail .transportUnavailable

/-- Derives octets from the hardware key. -/
def deriveOctets (label : Bytes) (length : Nat) : Action Partition Bytes := do
  let s ← Action.get
  if !s.online then Action.fail .derivationUnavailable
  else if length < minDerivation then Action.fail .bufferTooSmall
  else if maxDerivation < length then
    Action.fail (.invalidInput
      ("derivation length " ++ toString length ++ " exceeds " ++ toString maxDerivation))
  else return Hkdf.derive salt s.hardwareKey label length

/-- The partition as a deriver. -/
def deriver : Deriver Partition where
  labelSuffix := Partition.labelSuffix
  deriveOctets := deriveOctets

/-- Stores a private key. -/
def importKey (id : KeyId) (usage : KeyUsage) (scalar : Bytes) : Action Partition Unit := do
  requireOnline
  match Ecdsa.PrivateKey.ofOctets? scalar with
  | none => Action.fail .importFailed
  | some privateKey =>
    match (← Action.get).key? id with
    | none => Action.modify fun s => { s with keys := (id, ⟨privateKey, usage⟩) :: s.keys }
    | some stored =>
      if stored = ⟨privateKey, usage⟩ then
        Action.log .debug logTarget
          ("key " ++ id.text ++ " already present with identical material")
      else
        Action.log .warn logTarget ("key " ++ id.text ++ " already holds different material")
        Action.fail .importFailed

/-- The raw public key of a stored key. -/
def exportKey (id : KeyId) : Action Partition Bytes := do
  requireOnline
  match (← Action.get).key? id with
  | some stored => return stored.privateKey.point.encode
  | none => Action.fail .exportFailed

/-- Signs a message, whatever it is, with a key that may sign. -/
def signAny (id : KeyId) (message : Bytes) : Action Partition Bytes := do
  match (← Action.get).key? id with
  | none => Action.fail .signingFailed
  | some stored =>
    if stored.usage.contains KeyUsage.signHash then
      match Ecdsa.sign stored.privateKey message with
      | some signature => return signature
      | none => Action.fail .signingFailed
    else
      Action.log .warn logTarget ("key " ++ id.text ++ " is not permitted to sign")
      Action.fail .signingFailed

/-- Signs a request body. -/
def sign (id : KeyId) (message : Bytes) : Action Partition Bytes := do
  requireOnline
  match DerHeader.checkSequence message with
  | .ok _ => signAny id message
  | .error failure =>
    Action.log .error logTarget
      ("refusing to sign request body for key " ++ id.text ++ ": " ++ failure.message)
    Action.fail .signingFailed

/-- Encodes a value, signed or not. -/
def encodeValue (id : KeyId) (value : Single) (format : EncodeFormat) :
    Action Partition Bytes := do
  requireOnline
  let payload := SignedValue.payload value
  match format with
  | .claims => return payload
  | .signed => SignedValue.sign1 payload (signAny id)

/-- The UUID, derived when it is first asked for. -/
def deviceUuid : Action Partition String := do
  requireOnline
  match (← Action.get).knownUuid with
  | some uuid => return uuid
  | none =>
    let uuid ← deriver.uuid
    Action.modify fun s => { s with knownUuid := some uuid }
    return uuid

/-- The partition as a secure service. -/
def service : SecureService Partition where
  toDeriver := deriver
  setLabelSuffix := setLabelSuffix
  importKey := importKey
  exportKey := exportKey
  sign := sign
  encodeValue := encodeValue
  deviceUuid := deviceUuid

end Partition

end DeviceIdentity

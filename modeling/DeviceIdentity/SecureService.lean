import DeviceIdentity.Action
import DeviceIdentity.Key.Slot
import DeviceIdentity.Single
import DeviceIdentity.Uuid

/-!
# The secure service

Private keys never leave the secure service.  The rest of the library sees derived octets, public
keys, signatures and encoded values, which is what a hardware-isolated partition offers over its
request channel.

* A `Deriver` turns labels into octets that only one hardware key can produce; every label ends in
  the deriver's label suffix.  `Deriver.ecPrivateKey` and `Deriver.uuid` build on it.
* A `SecureService` is a deriver that also holds keys.  `SecureService.deriveKey` derives a private
  key and imports it, unless a service brings a way of its own.

Both are records of operations over a state `σ` of the service.  Nothing is assumed of what the
operations answer.
-/

namespace DeviceIdentity

/-! ## Derivation -/

/-- Derives octets from a hardware key. -/
structure Deriver (σ : Type) where
  /-- What is appended to every derivation label. -/
  labelSuffix : σ → String
  /-- Derives `length` octets under a label. -/
  deriveOctets : (label : Bytes) → (length : Nat) → Action σ Bytes

namespace Deriver

variable {σ : Type}

/-- What derivation calls itself in log records. -/
def logTarget : String := "huk_identity_core::derivation"

/-- The number of octets that one derivation is asked for: half of a private key. -/
def blockLength : Nat := 16

/-- What follows the base of the label for the high half of a private key. -/
def highHalf : String := "_EC_PRIV_KEY_HI"

/-- What follows the base of the label for the low half of a private key. -/
def lowHalf : String := "_EC_PRIV_KEY_LO"

/-- The base of the label for the UUID. -/
def uuidBase : String := "UUID"

/-- The label for a part of a purpose under a suffix. -/
def label (base part suffix : String) : String := base ++ part ++ suffix

/-- Derives the block for a part of a purpose.  Any other number of octets than asked for is
refused. -/
def block (d : Deriver σ) (base part : String) : Action σ Bytes := do
  let label := label base part (d.labelSuffix (← Action.get))
  let octets ← d.deriveOctets (Bytes.ofText label) blockLength
  if octets.length = blockLength then return octets
  else
    Action.log .error logTarget
      ("derivation for " ++ label ++ " returned " ++ toString octets.length ++ " bytes")
    Action.fail .bufferTooSmall

/-- Derives the private key for a purpose: the high half, and then the low half. -/
def ecPrivateKey (d : Deriver σ) (purpose : String) : Action σ Bytes := do
  let high ← d.block purpose highHalf
  let low ← d.block purpose lowHalf
  return high ++ low

/-- Derives the sixteen octets of the device UUID. -/
def uuidOctets (d : Deriver σ) : Action σ Bytes := do
  return Uuid.markVersion4 (← d.block uuidBase "")

/-- Derives the device UUID. -/
def uuid (d : Deriver σ) : Action σ String := do
  return Uuid.format (← d.uuidOctets)

end Deriver

/-! ## The service -/

/-- The forms in which a service encodes a value. -/
inductive EncodeFormat where
  /-- The claim map alone, unsigned. -/
  | claims
  /-- A signed value. -/
  | signed
  deriving DecidableEq, Repr

namespace EncodeFormat

/-- The name of a form. -/
def name : EncodeFormat → String
  | claims => "cbor"
  | signed => "cose_sign1"

/-- The form of a name; a signed value has a short name too. -/
def ofName? (name : String) : Option EncodeFormat :=
  if name = "cbor" then some claims
  else if name = "cose" ∨ name = "cose_sign1" then some signed
  else none

@[simp] theorem ofName?_name (format : EncodeFormat) : ofName? format.name = some format := by
  cases format <;> decide

end EncodeFormat

/-- The operations of the secure service over a state `σ`. -/
structure SecureService (σ : Type) extends Deriver σ where
  /-- Replaces the label suffix. -/
  setLabelSuffix : (suffix : String) → σ → σ
  /-- Stores a private key of 32 octets. -/
  importKey : KeyId → KeyUsage → (scalar : Bytes) → Action σ Unit
  /-- The raw public key of a stored key. -/
  exportKey : KeyId → Action σ Bytes
  /-- Signs a message, which has to be the body of a certificate request. -/
  sign : KeyId → (message : Bytes) → Action σ Bytes
  /-- Encodes a value, signed or not. -/
  encodeValue : KeyId → Single → EncodeFormat → Action σ Bytes
  /-- The UUID of the device. -/
  deviceUuid : Action σ String
  /-- Derives the private key for a purpose and stores it. -/
  deriveKey : KeyId → (purpose : String) → KeyUsage → Action σ Unit :=
    fun id purpose usage => do
      let scalar ← toDeriver.ecPrivateKey purpose
      importKey id usage scalar

end DeviceIdentity

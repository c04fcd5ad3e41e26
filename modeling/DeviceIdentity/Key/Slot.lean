import DeviceIdentity.Key.Id
import DeviceIdentity.Key.Usage

/-!
# Key slots

A device has a fixed set of purposes for its keys.  Each purpose is a *slot* with an identifier, a
label, which is also the base of the derivation labels and the organizational unit of certificate
requests, and the uses its key is imported with.

A slot's `KeyStatus` says how far its key has come.
-/

namespace DeviceIdentity

/-- The purposes a device key can serve. -/
inductive KeySlot where
  /-- Authenticates TLS clients. -/
  | clientTls
  /-- Signs values. -/
  | coseSign
  /-- Encrypts. -/
  | coseEncrypt
  deriving DecidableEq, Repr

namespace KeySlot

/-- All slots, in the order of the key table. -/
def all : List KeySlot := [clientTls, coseSign, coseEncrypt]

/-- The identifier of the slot's key. -/
def keyId : KeySlot → KeyId
  | clientTls => KeyId.clientTls
  | coseSign => KeyId.coseSign
  | coseEncrypt => KeyId.coseEncrypt

/-- What the slot is called. -/
def label : KeySlot → String
  | clientTls => "Device Client TLS"
  | coseSign => "Device COSE SIGN"
  | coseEncrypt => "Device COSE ENCRYPT"

/-- What the slot's key may be used for. -/
def usage : KeySlot → KeyUsage
  | clientTls | coseSign => KeyUsage.signHash.union KeyUsage.verifyHash
  | coseEncrypt => KeyUsage.encrypt

/-- The slot with a given identifier. -/
def ofKeyId? (id : KeyId) : Option KeySlot :=
  all.find? (·.keyId = id)

@[simp] theorem mem_all (slot : KeySlot) : slot ∈ all := by
  cases slot <;> decide

@[simp] theorem ofKeyId?_keyId (slot : KeySlot) : ofKeyId? slot.keyId = some slot := by
  cases slot <;> decide

/-- Different slots have different identifiers. -/
theorem keyId_inj {a b : KeySlot} : a.keyId = b.keyId ↔ a = b := by
  cases a <;> cases b <;> decide

end KeySlot

/-- How far the key of a slot has come. -/
inductive KeyStatus where
  /-- No key has been imported. -/
  | notProvisioned
  /-- The secure service holds the key pair. -/
  | keyGenerated
  /-- A certificate has been issued for the key. -/
  | certificateGenerated
  deriving DecidableEq, Repr

namespace KeyStatus

/-- All statuses, from the first to the last. -/
def all : List KeyStatus := [notProvisioned, keyGenerated, certificateGenerated]

/-- The number of a status; a later status has a greater one. -/
def number : KeyStatus → Nat
  | notProvisioned => 0
  | keyGenerated => 1
  | certificateGenerated => 2

/-- The words for a status. -/
def text : KeyStatus → String
  | notProvisioned => "Not provisioned"
  | keyGenerated => "Key generated"
  | certificateGenerated => "X.509 certificate gen"

instance : LE KeyStatus := ⟨fun a b => a.number ≤ b.number⟩

instance (a b : KeyStatus) : Decidable (a ≤ b) :=
  inferInstanceAs (Decidable (a.number ≤ b.number))

end KeyStatus

end DeviceIdentity

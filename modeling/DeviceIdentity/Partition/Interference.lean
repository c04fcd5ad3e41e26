import DeviceIdentity.SecureService

/-!
# Interference

A fault between the library and a secure service makes operations fail or answer something else.
`Interference.disturb` is a service that suffers such faults and is otherwise the service behind it.
It derives keys in the usual way, out of its own disturbed operations; the service behind derives
its UUID undisturbed.
-/

namespace DeviceIdentity

/-- The faults in front of a service.  Without any field set, nothing is disturbed. -/
structure Interference where
  /-- The keys whose import fails. -/
  rejectImport : List KeyId := []
  /-- Why derivation fails. -/
  deriveFailure : Option Failure := none
  /-- The length to which derived octets are cut or filled up. -/
  deriveLength : Option Nat := none
  /-- Why export fails. -/
  exportFailure : Option Failure := none
  /-- What replaces the first octet of an exported key. -/
  exportLead : Option UInt8 := none
  /-- Why signing fails. -/
  signFailure : Option Failure := none
  /-- What is returned as a signature. -/
  signature : Option Bytes := none
  /-- Why encoding fails. -/
  encodeFailure : Option Failure := none
  /-- What is returned as an encoded value. -/
  encoded : Option Bytes := none
  /-- Why the UUID cannot be had. -/
  uuidFailure : Option Failure := none
  /-- What is returned as the UUID. -/
  uuid : Option String := none

namespace Interference

variable {σ : Type} {α : Type}

/-- A step that fails, or answers something else, or is left alone. -/
def instead (failure : Option Failure) (answer : Option α) (step : Action σ α) : Action σ α :=
  match failure, answer with
  | some failure, _ => Action.fail failure
  | none, some answer => pure answer
  | none, none => step

/-- Octets cut or filled up with `DD` to a length. -/
def resize (length : Nat) (octets : Bytes) : Bytes :=
  octets.take length ++ List.replicate (length - octets.length) 0xDD

/-- Octets with the first one replaced. -/
def replaceLead (lead : UInt8) : Bytes → Bytes
  | [] => []
  | _ :: rest => lead :: rest

/-- A service behind the faults. -/
def disturb (faults : Interference) (service : SecureService σ) : SecureService σ where
  labelSuffix := service.labelSuffix
  setLabelSuffix := service.setLabelSuffix
  deriveOctets label length :=
    instead faults.deriveFailure none do
      let octets ← service.deriveOctets label length
      return (faults.deriveLength.map fun n => resize n octets).getD octets
  importKey id usage scalar :=
    if faults.rejectImport.contains id then Action.fail .importFailed
    else service.importKey id usage scalar
  exportKey id :=
    instead faults.exportFailure none do
      let raw ← service.exportKey id
      return (faults.exportLead.map fun lead => replaceLead lead raw).getD raw
  sign id message := instead faults.signFailure faults.signature (service.sign id message)
  encodeValue id value format :=
    instead faults.encodeFailure faults.encoded (service.encodeValue id value format)
  deviceUuid := instead faults.uuidFailure faults.uuid service.deviceUuid

end Interference

end DeviceIdentity

import DeviceIdentity.CaExchange
import DeviceIdentity.CertRequest
import DeviceIdentity.Settings
import DeviceIdentity.SignedValue.Message
import DeviceIdentity.SineModel

/-!
# The device

A `Device` is a secure service with the settings it is used under.  Its state is the state of the
service, the key table, and the provisioning record.  The operations below are what the rest of a
system does with a device; each is a step of the part of the state that it needs.
-/

namespace DeviceIdentity

/-- A secure service and the settings it is used under. -/
structure Device (σ : Type) where
  /-- The secure service. -/
  service : SecureService σ
  /-- The settings. -/
  settings : Settings

/-- The state of a device. -/
structure DeviceState (σ : Type) where
  /-- The state of the secure service. -/
  service : σ
  /-- The key table. -/
  table : KeyTable := KeyTable.empty
  /-- The provisioning record. -/
  handOver : HandOver := none

namespace DeviceState

variable {σ α : Type}

/-- Runs a step of the secure service. -/
def onService (step : Action σ α) : Action (DeviceState σ) α :=
  step.within DeviceState.service fun service d => { d with service }

/-- Runs a step of the secure service and the key table. -/
def onKeys (step : Action (σ × KeyTable) α) : Action (DeviceState σ) α :=
  step.within (fun d => (d.service, d.table)) fun (service, table) d => { d with service, table }

/-- Runs a step of the key table. -/
def onTable (step : Action KeyTable α) : Action (DeviceState σ) α :=
  step.within DeviceState.table fun table d => { d with table }

/-- Runs a step of the hand-over. -/
def onHandOver (step : Action HandOver α) : Action (DeviceState σ) α :=
  step.within DeviceState.handOver fun handOver d => { d with handOver }

/-- Runs a step of the secure service that writes into `buffer`.  Also returns the buffer. -/
def onBuffer (buffer : Bytes) (step : Action (σ × Bytes) α) :
    Action (DeviceState σ) (Except Failure α × Bytes) := fun d =>
  let outcome := step (d.service, buffer)
  ⟨.ok (outcome.result, outcome.state.2), { d with service := outcome.state.1 }, outcome.log⟩

end DeviceState

namespace Device

variable {σ : Type}

/-- What a device calls itself in log records. -/
def logTarget : String := "huk_identity_core::device"

/-- The version of the identity subsystem. -/
def version : String := "1.0.0"

/-- A device before anything is done with it.  A label suffix in the settings replaces the
service's own. -/
def start (device : Device σ) (service : σ) : DeviceState σ :=
  let suffix := device.settings.labelSuffix
  { service := if suffix.isEmpty then service else device.service.setLabelSuffix suffix service }

/-- Derives and imports the key of every slot that has none. -/
def init (device : Device σ) : Action (DeviceState σ) Nat := do
  let ready ← DeviceState.onKeys (KeyTable.provision device.service)
  Action.log .info logTarget
    (toString ready ++ " of " ++ toString KeySlot.all.length ++ " device keys ready")
  return ready

/-- The UUID of the device. -/
def uuid (device : Device σ) : Action (DeviceState σ) String :=
  DeviceState.onService device.service.deviceUuid

/-- The raw public key of a slot. -/
def publicKey (device : Device σ) (id : KeyId) : Action (DeviceState σ) Bytes := do
  let table := (← Action.get).table
  DeviceState.onService (table.publicKey device.service id)

/-- Makes a certificate request with the UUID of the device as common name. -/
def generateRequest (device : Device σ) (id : KeyId) (format : RequestFormat) :
    Action (DeviceState σ) Bytes := do
  let uuid ← device.uuid
  let table := (← Action.get).table
  let settings := device.settings
  let step := CertRequest.generate device.service table settings.organization
    settings.csrBufferSize.toNat id uuid format
  step.within (fun d => { service := d.service }) fun b d => { d with service := b.service }

/-- Encodes a value with the signing key, in a buffer of the size set. -/
def encodeValue (device : Device σ) (value : Single) (format : EncodeFormat) :
    Action (DeviceState σ) Bytes := do
  let size := device.settings.coseBufferSize.toNat
  let (result, buffer) ← DeviceState.onBuffer (List.replicate size 0)
    (SignedValue.encodeInto device.service KeyId.coseSign value format)
  let length ← Action.ofExcept result
  return buffer.take length

/-- Checks a signed value against the public key of a slot and gives the value it carries. -/
def verify (device : Device σ) (id : KeyId) (message : Bytes) :
    Action (DeviceState σ) Single := do
  let publicKey ← device.publicKey id
  Action.ofExcept (SignedValue.verify message publicKey)

/-- Applies a response of the certificate authority. -/
def applyResponse (octets : Bytes) : Action (DeviceState σ) Unit :=
  (CaExchange.apply octets).within (fun d => (d.handOver, d.table))
    fun (handOver, table) d => { d with handOver, table }

/-- How long the settings let a reader wait for the record. -/
def patience (device : Device σ) : HandOver.Patience :=
  match device.settings.provisionTimeoutMs with
  | some limit => .milliseconds limit.toNat
  | none => .unbounded

/-- What becomes of a reader of the record: the record, a failure when the time is over, or nothing
when it waits for ever. -/
def waitForRecord (device : Device σ) : Action (DeviceState σ) (Option ProvisionRecord) := do
  match ← DeviceState.onHandOver (HandOver.wait device.patience) with
  | .ready => return some (← DeviceState.onHandOver HandOver.record)
  | .gaveUp => Action.fail .notProvisioned
  | .blocked => return none

end Device

end DeviceIdentity

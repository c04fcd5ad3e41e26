import DeviceIdentity.Key.Table
import DeviceIdentity.SecureService

/-!
# Keys for the slots of the table

`KeyTable.provision` derives and imports the key of every slot that has none, slot by slot.  A slot
whose key cannot be had is reported and left as it is, and the next one is tried.
`KeyTable.publicKey` fetches the public key of a slot that has a key.
-/

namespace DeviceIdentity

namespace KeyTable

variable {σ : Type}

/-- Derives and imports the key of a slot, unless the slot has one. -/
def provisionSlot (service : SecureService σ) (slot : KeySlot) : Action (σ × KeyTable) Unit := do
  if (← Action.get).2.hasKey slot then
    Action.log .debug logTarget (slot.label ++ " already provisioned, skipping")
  else
    match ← (service.deriveKey slot.keyId slot.label slot.usage).onFst.attempt with
    | .ok () =>
      Action.modify fun (state, table) => (state, table.set slot .keyGenerated)
      Action.log .info logTarget (slot.label ++ " key generated (" ++ slot.keyId.text ++ ")")
    | .error failure =>
      Action.log .error logTarget
        (slot.label ++ " key import failed: " ++ failure.label ++ " (" ++ toString failure.code ++
          ")")

/-- Derives and imports the key of every slot that has none.  Returns how many slots have a key
afterwards. -/
def provision (service : SecureService σ) : Action (σ × KeyTable) Nat := do
  KeySlot.all.forM (provisionSlot service)
  return (← Action.get).2.ready

/-- The raw public key of a slot that has a key.  A key that does not start with `04`, the mark of
both coordinates, is refused. -/
def publicKey (service : SecureService σ) (table : KeyTable) (id : KeyId) : Action σ Bytes := do
  let slot ← Action.ofExcept (slot id)
  if table.hasKey slot then
    let raw ← (service.exportKey id).mapFailure Failure.ofExport
    if raw.head? = some 0x04 then return raw else Action.fail .exportFailed
  else Action.fail .exportFailed

end KeyTable

end DeviceIdentity

import DeviceIdentity.Action
import DeviceIdentity.Key.Slot
import DeviceIdentity.Text.Pad

/-!
# The key table

A `KeyTable` gives each slot its status.  It starts with no key provisioned.  A status is changed
when a key is imported for its slot and when a certificate is recorded for it.

Main statements: recording a status changes the slot it is recorded for (`KeyTable.status_set_self`)
and no other (`KeyTable.status_set_of_ne`).
-/

namespace DeviceIdentity

/-- The status of every slot. -/
structure KeyTable where
  /-- How far the key of a slot has come. -/
  status : KeySlot → KeyStatus

namespace KeyTable

/-- What the table calls itself in log records. -/
def logTarget : String := "huk_identity_core::registry"

/-- The table without any key. -/
def empty : KeyTable := ⟨fun _ => .notProvisioned⟩

/-- The table after a slot has reached a status. -/
def set (table : KeyTable) (slot : KeySlot) (status : KeyStatus) : KeyTable :=
  ⟨fun other => if other = slot then status else table.status other⟩

@[simp] theorem status_set_self (table : KeyTable) (slot : KeySlot) (status : KeyStatus) :
    (table.set slot status).status slot = status := by
  simp [set]

theorem status_set_of_ne (table : KeyTable) {slot other : KeySlot} (status : KeyStatus)
    (h : other ≠ slot) : (table.set slot status).status other = table.status other := by
  simp [set, h]

/-- Whether the slot has a key. -/
def hasKey (table : KeyTable) (slot : KeySlot) : Bool :=
  table.status slot ≠ .notProvisioned

/-- The number of slots that have a key. -/
def ready (table : KeyTable) : Nat :=
  KeySlot.all.countP table.hasKey

/-- The slot with a given identifier. -/
def slot (id : KeyId) : Except Failure KeySlot :=
  match KeySlot.ofKeyId? id with
  | some slot => .ok slot
  | none => .error .unknownKeyId

/-- The place in the table of the slot with a given identifier. -/
def index (id : KeyId) : Except Failure Nat :=
  match KeySlot.all.findIdx? (·.keyId = id) with
  | some place => .ok place
  | none => .error .unknownKeyId

/-- Records that a certificate has been issued for a key, which has to exist. -/
def recordCertificate (id : KeyId) : Action KeyTable Unit := do
  let slot ← Action.ofExcept (slot id)
  if (← Action.get).hasKey slot then
    Action.modify fun table => table.set slot .certificateGenerated
    Action.log .info logTarget (slot.label ++ " certificate recorded")
  else
    Action.fail (.invalidInput (slot.label ++ " has no key to certify"))

/-- The width of the column of identifiers in the printed table. -/
def idWidth : Nat := 12

/-- One row of the printed table, with an identifier that is as wide as its column. -/
def row (key id status : String) : String :=
  "| " ++ Pad.left 20 key ++ "| " ++ id ++ " | " ++ Pad.left 22 status ++ " |\n"

/-- The printed table: a heading, and a row for each slot. -/
def text (table : KeyTable) : String :=
  row "Key" (Pad.left idWidth "Key ID") "Status" ++
    String.join (KeySlot.all.map fun slot =>
      row slot.label (slot.keyId.padded .left idWidth) (table.status slot).text)

end KeyTable

end DeviceIdentity

import DeviceIdentity.Action
import DeviceIdentity.Bytes

/-!
# The hand-over of the provisioning record

The certificate authority answers with a certificate and the place of a hub.  This record is kept
whole and replaced whole, and every reader waits until there is one.

* `ProvisionRecord.write` copies a record into a buffer, segment by segment: certificate, hub name,
  a zero octet, and the port.  A segment that does not fit ends the copy; those before it stay.
* `HandOver` is the state: the record stored last, if any.
* `HandOver.wait` says what becomes of a reader that finds nothing for as long as it will wait.
-/

namespace DeviceIdentity

/-- What a device is given when it is provisioned. -/
structure ProvisionRecord where
  /-- The certificate of the device. -/
  certificate : Bytes
  /-- The name of the hub. -/
  hubName : String
  /-- The port of the hub. -/
  hubPort : UInt16
  deriving DecidableEq, Repr

namespace ProvisionRecord

/-- The segments of a record, in the order they are written. -/
def segments (record : ProvisionRecord) : List Bytes :=
  [record.certificate, Bytes.ofText record.hubName, [0], Bytes.ofNat 2 record.hubPort.toNat]

/-- How many octets a record takes. -/
def size (record : ProvisionRecord) : Nat :=
  record.certificate.length + (Bytes.ofText record.hubName).length + 1 + 2

/-- The segments make up the size. -/
theorem length_flatten_segments (record : ProvisionRecord) :
    record.segments.flatten.length = record.size := by
  simp [segments, size]
  omega

/-- Copies segments to the front of `free`, after the octets `done` of the same buffer.  Returns how
many octets were copied in all, or that a segment does not fit, and the buffer. -/
def writeSegments : (done free : Bytes) → List Bytes → Except Failure Nat × Bytes
  | done, free, [] => (.ok done.length, done ++ free)
  | done, free, segment :: rest =>
    if segment.length ≤ free.length then
      writeSegments (done ++ segment) (free.drop segment.length) rest
    else (.error .bufferTooSmall, done ++ free)

/-- Copies a record to the front of a buffer. -/
def write (record : ProvisionRecord) (buffer : Bytes) : Except Failure Nat × Bytes :=
  writeSegments [] buffer record.segments

end ProvisionRecord

/-- The record stored last. -/
abbrev HandOver := Option ProvisionRecord

namespace HandOver

/-- What the hand-over calls itself in log records. -/
def logTarget : String := "huk_identity_core::provision"

/-- Stores a record in place of the one before. -/
def store (record : ProvisionRecord) : Action HandOver Unit := do
  Action.log .info logTarget
    ("device provisioned: " ++ toString record.certificate.length ++ " bytes of certificate, " ++
      "hub " ++ record.hubName ++ ":" ++ toString record.hubPort.toNat)
  Action.modify fun _ => some record

/-- The record, if there is one. -/
def record : Action HandOver ProvisionRecord := do
  match ← Action.get with
  | some record => return record
  | none => Action.fail .notProvisioned

/-- Copies the record to the front of a buffer.  Also returns the buffer. -/
def get (state : HandOver) (buffer : Bytes) : Except Failure Nat × Bytes :=
  match state with
  | some record => record.write buffer
  | none => (.error .notProvisioned, buffer)

/-! ## Waiting -/

/-- How long a reader waits. -/
inductive Patience where
  /-- Until there is a record. -/
  | unbounded
  /-- For a number of milliseconds. -/
  | milliseconds (limit : Nat)
  deriving DecidableEq, Repr

/-- What becomes of a reader that no other thread helps. -/
inductive Waited where
  /-- There is a record. -/
  | ready
  /-- The time is over, and there is no record. -/
  | gaveUp
  /-- The reader waits for ever. -/
  | blocked
  deriving DecidableEq, Repr

/-- The fraction of a second in three digits without the zeros at the end. -/
def fractionDigits (milliseconds : Nat) : List Char :=
  let digits := Nat.toDigits 10 (1000 + milliseconds)
  ((digits.drop 1).reverse.dropWhile (· == '0')).reverse

/-- A time in its largest unit that leaves a number of one or more. -/
def durationText (milliseconds : Nat) : String :=
  if milliseconds = 0 then "0ns"
  else if milliseconds < 1000 then toString milliseconds ++ "ms"
  else
    let fraction := fractionDigits (milliseconds % 1000)
    let point := if fraction.isEmpty then "" else "."
    toString (milliseconds / 1000) ++ point ++ String.ofList fraction ++ "s"

/-- What becomes of a reader of a given patience when nothing is stored meanwhile. -/
def wait (patience : Patience) : Action HandOver Waited := do
  match ← Action.get, patience with
  | some _, _ => return .ready
  | none, .unbounded => return .blocked
  | none, .milliseconds limit =>
    Action.log .warn logTarget
      ("gave up waiting for provisioning after " ++ durationText limit)
    return .gaveUp

end HandOver

end DeviceIdentity

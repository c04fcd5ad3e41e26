import DeviceIdentity.Cbor.Reader
import DeviceIdentity.Key.Table
import DeviceIdentity.Provision

/-!
# Messages of the certificate authority

A request to the authority is the CBOR map `{1: request}`.  Its response is a map of four entries
with the keys 1 to 4 in order: a status, which is not interpreted, the certificate, the name of the
hub and the port of the hub.

* `CaExchange.request` writes a request.
* `CaResponse.parse` reads a response; octets after the map are ignored.
* `CaExchange.apply` stores what a response carries and records the certificate in the key table.
-/

namespace DeviceIdentity

/-- A response of the certificate authority. -/
structure CaResponse where
  /-- The status, which is not interpreted. -/
  status : UInt64
  /-- What the device is given. -/
  record : ProvisionRecord
  deriving DecidableEq, Repr

namespace CaResponse

/-- The unsigned integer that an item is. -/
def unsigned? : CborItem → Option UInt64
  | .unsigned value => some value
  | _ => none

/-- Requires the key of an entry to be `key`. -/
def requireKey (key : Nat) (item : CborItem) : Except Failure Unit :=
  match unsigned? item with
  | some value =>
    if value.toNat = key then .ok ()
    else .error (.invalidInput ("expected CA response key " ++ toString key))
  | none => .error (.invalidInput ("expected CA response key " ++ toString key))

/-- Requires an item to be an unsigned integer. -/
def requireUnsigned (field : String) (item : CborItem) : Except Failure UInt64 :=
  match unsigned? item with
  | some value => .ok value
  | none => .error (.invalidInput (field ++ " is not a uint"))

/-- The failure of an entry whose value has another type. -/
def wrongType (key : Nat) : Failure :=
  .invalidInput ("CA response key " ++ toString key ++ " has the wrong type")

/-- Requires an item to be a byte string. -/
def requireBytes (key : Nat) : CborItem → Except Failure Bytes
  | .bytes content => .ok content
  | _ => .error (wrongType key)

/-- Requires an item to be a text. -/
def requireText (key : Nat) : CborItem → Except Failure String
  | .text content => .ok content
  | _ => .error (wrongType key)

/-- Requires an item to be a port. -/
def requirePort (item : CborItem) : Except Failure UInt16 := do
  let value ← requireUnsigned "hub port" item
  if value.toNat < 2 ^ 16 then return UInt16.ofNat value.toNat
  else throw (.invalidInput "hub port out of range")

/-- The response that the entries of a map make up, looked at in order. -/
def ofEntries : List (CborItem × CborItem) → Except Failure CaResponse
  | [(k1, v1), (k2, v2), (k3, v3), (k4, v4)] => do
    requireKey 1 k1
    let status ← requireUnsigned "status" v1
    requireKey 2 k2
    let certificate ← requireBytes 2 v2
    requireKey 3 k3
    let hubName ← requireText 3 v3
    requireKey 4 k4
    let hubPort ← requirePort v4
    return ⟨status, ⟨certificate, hubName, hubPort⟩⟩
  | entries =>
    .error (.invalidInput
      ("CA response has " ++ toString entries.length ++ " entries, expected 4"))

/-- Reads a response.  One text stands for all that can be wrong with the encoding: what a reader of
CBOR says about the place and the kind of the fault is not kept. -/
def parse (octets : Bytes) : Except Failure CaResponse :=
  match CborItem.read? octets with
  | none => .error (.serialization "not a CBOR item")
  | some (.map entries, _) => ofEntries entries
  | some _ => .error (.invalidInput "CA response is not a map")

end CaResponse

namespace CaExchange

/-- What the exchange calls itself in log records. -/
def logTarget : String := "huk_identity_core::ca"

/-- The request for a certificate. -/
def request (certRequest : Bytes) : Bytes :=
  (CborItem.map [(.unsigned 1, .bytes certRequest)]).encode

/-- Stores what a response carries and records the certificate of the TLS key.  If the TLS slot has
no key, that is reported and the record is stored all the same. -/
def apply (octets : Bytes) : Action (HandOver × KeyTable) Unit := do
  let response ← Action.ofExcept (CaResponse.parse octets)
  Action.log .debug logTarget ("CA response status " ++ toString response.status.toNat)
  (HandOver.store response.record).onFst
  let recorded ← ((KeyTable.recordCertificate KeyId.clientTls).within Prod.snd
    fun table state => (state.1, table)).attempt
  match recorded with
  | .ok () => return ()
  | .error failure =>
    Action.log .warn logTarget
      ("certificate stored but TLS key state not updated: " ++ failure.message)

end CaExchange

end DeviceIdentity

import DeviceIdentity.Key.Table
import DeviceIdentity.SecureService

/-!
# Encoding values through the secure service

`SignedValue.encodeInto` has the service encode a value and copies the answer to the front of a
buffer.  A failure leaves the buffer alone.
-/

namespace DeviceIdentity

namespace SignedValue

variable {σ : Type}

/-- What encoding calls itself in log records. -/
def logTarget : String := "huk_identity_core::cose"

/-- Has the service encode a value with a key of the table, and copies the answer to the front of
the buffer beside the service's state.  Returns the number of octets copied. -/
def encodeInto (service : SecureService σ) (id : KeyId) (value : Single) (format : EncodeFormat) :
    Action (σ × Bytes) Nat := do
  let _ ← Action.ofExcept (KeyTable.slot id)
  let encoded ← ((service.encodeValue id value format).mapFailure Failure.ofSigning).onFst
  let size := (← Action.get).2.length
  if size < encoded.length then
    Action.log .error logTarget
      ("encoded payload needs " ++ toString encoded.length ++ " bytes, buffer holds " ++
        toString size)
    Action.fail .bufferTooSmall
  else
    Action.modify fun (state, buffer) => (state, encoded ++ buffer.drop encoded.length)
    return encoded.length

end SignedValue

end DeviceIdentity

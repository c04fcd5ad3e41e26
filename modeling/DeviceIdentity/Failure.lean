/-!
# Why an operation fails

`Failure` lists every cause an operation of this library reports.  A cause has a short stable
*label* that is safe to show to an operator, a negative *code* reported beside it, and a *message*,
which is the label followed by the detail where the cause carries one.

Main statements: `Failure.ofLabel?_label`, a label and a detail give the cause back, and
`Failure.label_eq_iff_code_eq`, codes and labels tell the same causes apart.
-/

namespace DeviceIdentity

/-- The causes of failure. -/
inductive Failure where
  /-- The service of the hardware key cannot be reached. -/
  | derivationUnavailable
  /-- A buffer, or a derivation budget, is too small. -/
  | bufferTooSmall
  /-- The key store rejected a key. -/
  | importFailed
  /-- No slot of the key table has this identifier. -/
  | unknownKeyId
  /-- The public key could not be had. -/
  | exportFailed
  /-- The subject name cannot be assembled. -/
  | subjectNameInvalid
  /-- The signing call failed. -/
  | signingFailed
  /-- A DER or PEM step failed. -/
  | encodingFailed
  /-- The input is no signed value. -/
  | malformedCose
  /-- The signature does not verify. -/
  | signatureInvalid
  /-- The signature verifies and the payload carries no number. -/
  | payloadDecodeFailed
  /-- No provisioning record has been stored. -/
  | notProvisioned
  /-- The channel to the secure service is closed. -/
  | transportUnavailable
  /-- The input does not suit the operation. -/
  | invalidInput (detail : String)
  /-- A document could not be read or written. -/
  | serialization (detail : String)
  deriving DecidableEq, Repr

namespace Failure

/-- The stable short name of the cause. -/
def label : Failure → String
  | derivationUnavailable => "derivation_unavailable"
  | bufferTooSmall => "buffer_too_small"
  | importFailed => "import_failed"
  | unknownKeyId => "unknown_key_id"
  | exportFailed => "export_failed"
  | subjectNameInvalid => "subject_name_invalid"
  | signingFailed => "signing_failed"
  | encodingFailed => "encoding_failed"
  | malformedCose => "malformed_cose"
  | signatureInvalid => "signature_invalid"
  | payloadDecodeFailed => "payload_decode_failed"
  | notProvisioned => "not_provisioned"
  | transportUnavailable => "transport_unavailable"
  | invalidInput _ => "invalid_input"
  | serialization _ => "serialization_error"

/-- The stable number of the cause. -/
def code : Failure → Int
  | derivationUnavailable => -1
  | bufferTooSmall => -2
  | importFailed => -3
  | unknownKeyId => -4
  | exportFailed => -5
  | subjectNameInvalid => -6
  | signingFailed => -7
  | encodingFailed => -8
  | malformedCose => -9
  | signatureInvalid => -10
  | payloadDecodeFailed => -11
  | notProvisioned => -12
  | transportUnavailable => -13
  | invalidInput _ => -14
  | serialization _ => -15

/-- The detail that a cause carries beside its label. -/
def detail? : Failure → Option String
  | invalidInput detail | serialization detail => some detail
  | _ => none

/-- The label, followed by the detail if there is one. -/
def message (failure : Failure) : String :=
  match failure.detail? with
  | some detail => failure.label ++ ": " ++ detail
  | none => failure.label

/-- The cause of a given label, with `detail` where the cause carries one. -/
def ofLabel? (label detail : String) : Option Failure :=
  [derivationUnavailable, bufferTooSmall, importFailed, unknownKeyId, exportFailed,
    subjectNameInvalid, signingFailed, encodingFailed, malformedCose, signatureInvalid,
    payloadDecodeFailed, notProvisioned, transportUnavailable, invalidInput detail,
    serialization detail].find? (·.label = label)

/-- The label and the detail of a cause give it back. -/
theorem ofLabel?_label (failure : Failure) :
    ofLabel? failure.label (failure.detail?.getD "") = some failure := by
  cases failure <;> simp [ofLabel?, label, detail?]

/-- What a caller sees of a failed signing call: a closed channel and a small buffer stay what they
are, and every other cause becomes `signingFailed`. -/
def ofSigning : Failure → Failure
  | transportUnavailable => transportUnavailable
  | bufferTooSmall => bufferTooSmall
  | _ => signingFailed

/-- What a caller sees of a failed export call: a closed channel stays what it is, and every other
cause becomes `exportFailed`. -/
def ofExport : Failure → Failure
  | transportUnavailable => transportUnavailable
  | _ => exportFailed

/-- What a caller sees of a failed step of writing DER: a small buffer stays what it is, and every
other cause becomes `encodingFailed`. -/
def ofEncoding : Failure → Failure
  | bufferTooSmall => bufferTooSmall
  | _ => encodingFailed

/-- Codes and labels tell the same causes apart. -/
theorem label_eq_iff_code_eq (a b : Failure) : a.label = b.label ↔ a.code = b.code := by
  cases a <;> cases b <;> simp [label, code]

end Failure

end DeviceIdentity

import DeviceIdentity.CertRequest
import DeviceIdentity.Shell.Arguments
import DeviceIdentity.SineModel

/-!
# The commands of the shell

`Invocation.read` turns arguments and environment into an `Invocation`: a command with everything it
needs, and the options that all commands share.
-/

namespace DeviceIdentity

/-- A command of the shell. -/
inductive Command where
  /-- Print the version of the identity subsystem. -/
  | version
  /-- Print the UUID of the device. -/
  | uuid
  /-- Print the key table. -/
  | keyStatus
  /-- Print public keys: of one slot, or of all that have a key. -/
  | publicKeys (id : Option KeyId)
  /-- Make a certificate request. -/
  | request (id : KeyId) (format : RequestFormat)
  /-- Encode a value. -/
  | signValue (value : Single) (format : EncodeFormat)
  /-- Check a signed value, given in hexadecimal. -/
  | verifyValue (id : KeyId) (message : String)
  /-- Hand a record over. -/
  | provisionDemo (hubName : String) (hubPort : UInt16)
  /-- Run a sine model on one input, or over its range. -/
  | infer (model : SineModel) (input : Option Single) (steps : Nat)
  deriving DecidableEq, Repr

/-- A command and the options that all commands share. -/
structure Invocation where
  /-- The organization, in place of the one in the settings. -/
  organization : Option String
  /-- The label suffix, in place of the one in the settings. -/
  labelSuffix : Option String
  /-- The hardware key of the emulated partition. -/
  seed : Option Bytes
  /-- The path of a settings document. -/
  settingsPath : Option String
  /-- The command. -/
  command : Command
  deriving DecidableEq, Repr

namespace Shell

/-! ## Values -/

/-- `cs` without any number of `0x` at its front. -/
def dropHexMarks : List Char → List Char
  | '0' :: 'x' :: rest => dropHexMarks rest
  | cs => cs

/-- The hardware key that a text gives: 32 octets in hexadecimal. -/
def seed? (text : String) : Option Bytes :=
  match Hex.decode (String.ofList (dropHexMarks text.toList)) with
  | .ok octets => if octets.length = 32 then some octets else none
  | .error _ => none

/-- The identifier that a text gives. -/
def keyId? (text : String) : Option KeyId :=
  (KeyId.parse text).toOption

/-- The number up to `limit` that a text gives. -/
def number? (limit : Nat) (text : String) : Option Nat :=
  match Numeral.readInteger? 10 text.toList with
  | some n => if 0 ≤ n ∧ n ≤ limit then some n.toNat else none
  | none => none

/-! ## Options -/

/-- The organization. -/
def organizationOption : OptionRule :=
  { name := "org", environment := some "HUK_ORG" }

/-- The label suffix. -/
def suffixOption : OptionRule :=
  { name := "label-suffix", environment := some "HUK_LABEL_SUFFIX" }

/-- The hardware key. -/
def seedOption : OptionRule :=
  { name := "seed", environment := some "HUK_SEED", accepts := fun t => (seed? t).isSome }

/-- The path of a settings document. -/
def settingsOption : OptionRule :=
  { name := "config", accepts := fun t => !t.isEmpty }

/-- Whether to say more. -/
def verboseOption : OptionRule :=
  { name := "verbose", takesValue := false, letter := some 'v' }

/-- The options that all commands share. -/
def sharedOptions : List OptionRule :=
  [organizationOption, suffixOption, seedOption, settingsOption, verboseOption]

/-- The identifier of a key. -/
def keyIdOption : OptionRule :=
  { name := "key-id", accepts := fun t => (keyId? t).isSome }

/-- The form of a certificate request. -/
def requestFormatOption : OptionRule :=
  { name := "format", accepts := fun t => (RequestFormat.ofName? t).isSome }

/-- The value to encode. -/
def valueOption : OptionRule :=
  { name := "value", negativeNumbers := true, required := true,
    accepts := fun t => (Single.read? t).isSome }

/-- The form of an encoded value. -/
def encodeFormatOption : OptionRule :=
  { name := "format", accepts := fun t => (EncodeFormat.ofName? t).isSome }

/-- The signed value to check. -/
def payloadOption : OptionRule :=
  { name := "payload", required := true }

/-- The name of the hub. -/
def hubNameOption : OptionRule := { name := "hubname" }

/-- The port of the hub. -/
def hubPortOption : OptionRule :=
  { name := "hubport", accepts := fun t => (number? 65535 t).isSome }

/-- The sine model. -/
def modelOption : OptionRule :=
  { name := "engine", accepts := fun t => (SineModel.ofName? t).isSome }

/-- One input of a sine model. -/
def inputOption : OptionRule :=
  { name := "input", excludes := some "steps", accepts := fun t => (Single.read? t).isSome }

/-- The number of steps over the range of a sine model. -/
def stepsOption : OptionRule :=
  { name := "steps", accepts := fun t => (number? 255 t).isSome }

/-- All commands. -/
def tree : CommandTree :=
  .group [
    ("info", .group [("uuid", .leaf []), ("version", .leaf [])]),
    ("keys", .group [("status", .leaf []), ("public", .leaf [keyIdOption])]),
    ("csr", .group [("generate", .leaf [keyIdOption, requestFormatOption])]),
    ("cose", .group [
      ("sign", .leaf [valueOption, encodeFormatOption]),
      ("verify", .leaf [keyIdOption, payloadOption])]),
    ("provision", .group [("demo", .leaf [hubNameOption, hubPortOption])]),
    ("infer", .leaf [modelOption, inputOption, stepsOption])]

/-- The command that a command line names, with the values of its options by `get`. -/
def command? (get : OptionRule → Option String) : List String → Option Command
  | ["info", "version"] => some .version
  | ["info", "uuid"] => some .uuid
  | ["keys", "status"] => some .keyStatus
  | ["keys", "public"] => some (.publicKeys ((get keyIdOption).bind keyId?))
  | ["csr", "generate"] =>
    some (.request (((get keyIdOption).bind keyId?).getD KeyId.clientTls)
      (((get requestFormatOption).bind RequestFormat.ofName?).getD .preferred))
  | ["cose", "sign"] => do
    let value ← (get valueOption).bind Single.read?
    some (.signValue value (((get encodeFormatOption).bind EncodeFormat.ofName?).getD .signed))
  | ["cose", "verify"] => do
    let message ← get payloadOption
    some (.verifyValue (((get keyIdOption).bind keyId?).getD KeyId.coseSign) message)
  | ["provision", "demo"] =>
    some (.provisionDemo ((get hubNameOption).getD "localhost")
      (UInt16.ofNat (((get hubPortOption).bind (number? 65535)).getD 8883)))
  | ["infer"] =>
    some (.infer (((get modelOption).bind SineModel.ofName?).getD .quantized)
      ((get inputOption).bind Single.read?) (((get stepsOption).bind (number? 255)).getD 8))
  | _ => none

end Shell

namespace Invocation

/-- Reads arguments and environment. -/
def read (environment : String → Option String) (arguments : List String) :
    Except ReadingEnd Invocation := do
  let line ← CommandLine.read environment Shell.sharedOptions Shell.tree arguments
  let get (rule : OptionRule) := line.value? environment rule
  match Shell.command? get line.commands with
  | none => throw .wrong
  | some command =>
    return {
      organization := get Shell.organizationOption
      labelSuffix := get Shell.suffixOption
      seed := (get Shell.seedOption).bind Shell.seed?
      settingsPath := get Shell.settingsOption
      command }

end Invocation

end DeviceIdentity

import DeviceIdentity.Device
import DeviceIdentity.Partition
import DeviceIdentity.Shell.Command

/-!
# Running commands

`Invocation.run` runs a command on a fresh device over an emulated partition and reports what is
printed and how it ends.  Files and chance are given as arguments, so a report is a function of
them.
-/

namespace DeviceIdentity

/-- What the run of a program leaves: its exit code and what it printed. -/
structure Report where
  /-- The exit code. -/
  code : Nat
  /-- What was printed as output. -/
  output : String := ""
  /-- What was printed about errors. -/
  errors : String := ""
  deriving DecidableEq, Repr

namespace Shell

/-- Why a command ends without success. -/
inductive CommandFailure where
  /-- An operation of the library failed. -/
  | operation (cause : Failure)
  /-- Something outside the library is wrong. -/
  | outside (text : String)
  deriving DecidableEq, Repr

/-- What is printed about a failure after `error: `. -/
def CommandFailure.text : CommandFailure → String
  | operation cause => cause.label ++ " (" ++ toString cause.code ++ ")"
  | outside text => text

/-- The state of the shell: a device, and what has been printed. -/
structure Session where
  /-- The state of the device. -/
  device : DeviceState Partition
  /-- What has been printed. -/
  output : String := ""

/-- Prints a text. -/
def print (text : String) : Action Session Unit :=
  Action.modify fun s => { s with output := s.output ++ text }

/-- Prints a text and a line feed. -/
def printLine (text : String) : Action Session Unit := print (text ++ "\n")

/-- Runs a step of the device. -/
def onDevice {α : Type} (step : Action (DeviceState Partition) α) : Action Session α :=
  step.within Session.device fun device s => { s with device }

/-- Octets in lowercase hexadecimal, sixteen in a row. -/
def hexRows (octets : Bytes) : String :=
  "\n".intercalate ((rows 16 octets).map Hex.encode)

/-- Prints the public key of a slot. -/
def printPublicKey (device : Device Partition) (id : KeyId) : Action Session Unit := do
  let slot ← Action.ofExcept (KeyTable.slot id)
  let raw ← onDevice (device.publicKey id)
  printLine (slot.label ++ " (" ++ id.text ++ "):")
  printLine (hexRows raw)
  let pem ← Action.ofExcept (PublicKeyInfo.pem raw)
  print pem

/-- Prints the public keys of one slot, or of all that have a key. -/
def printPublicKeys (device : Device Partition) (id : Option KeyId) : Action Session Unit := do
  let table := (← Action.get).device.table
  let ids := match id with
    | some id => [id]
    | none => (KeySlot.all.filter table.hasKey).map KeySlot.keyId
  ids.forM (printPublicKey device)

/-- Prints a certificate request. -/
def printRequest (device : Device Partition) (id : KeyId) (format : RequestFormat) :
    Action Session Unit := do
  let request ← onDevice (device.generateRequest id format)
  match format with
  | .der => printLine (hexRows request)
  | .pem | .json =>
    printLine (String.ofList (Blank.trimEnd ((Bytes.toText? request).getD "").toList))

/-- Hands a record over to a reader.  No authority is asked: the request of the TLS key stands in
for its certificate. -/
def provisionDemo (device : Device Partition) (hubName : String) (hubPort : UInt16) :
    Action Session Unit := do
  let certificate ← onDevice (device.generateRequest KeyId.clientTls .der)
  onDevice (DeviceState.onHandOver (HandOver.store ⟨certificate, hubName, hubPort⟩))
  onDevice (DeviceState.onTable (KeyTable.recordCertificate KeyId.clientTls))
  match ← onDevice device.waitForRecord with
  | none => return ()
  | some record =>
    let (result, buffer) := record.write (List.replicate record.size 0)
    let length ← Action.ofExcept result
    printLine ("waiter received " ++ toString length ++
      " bytes (stand-in certificate, hub name, port):")
    printLine (hexRows (buffer.take length))
    print (← Action.get).device.table.text

/-- The inputs of a sweep over the range of the models, in at least one step. -/
def sweep (steps : Nat) : List Single :=
  let steps := max steps 1
  let range := SineModel.range.value
  (List.range (steps + 1)).map fun step =>
    let x := range * Float32.ofNat step / Float32.ofNat steps
    .ofValue (if x ≤ range then x else range)

/-- Runs a sine model on an input, signs and checks what it answers, and prints it. -/
def printInference (device : Device Partition) (publicKey : Bytes) (model : SineModel)
    (x : Single) : Action Session Unit := do
  let size := device.settings.coseBufferSize.toNat
  let (result, buffer) ← onDevice (DeviceState.onBuffer (List.replicate size 0)
    (model.inferInto device.service x .signed))
  let (y, length) ← Action.ofExcept result
  let verified ← Action.ofExcept (SignedValue.verify (buffer.take length) publicKey)
  let sine := x.value.sin
  let deviation := Single.ofValue (sine - y.value).abs
  printLine (model.name ++ ": sin(" ++ x.fixed 4 ++ ") = " ++ verified.fixed 6 ++ " (libm " ++
    (Single.ofValue sine).fixed 6 ++ ", deviation " ++ deviation.fixed 6 ++ ")")

/-- Runs a command on a device that has its keys. -/
def perform (device : Device Partition) : Command → Action Session Unit
  | .version => printLine Device.version
  | .uuid => do
    let uuid ← onDevice device.uuid
    printLine uuid
  | .keyStatus => do
    print (← Action.get).device.table.text
  | .publicKeys id => printPublicKeys device id
  | .request id format => printRequest device id format
  | .signValue value format => do
    let encoded ← onDevice (device.encodeValue value format)
    printLine (Hex.encode encoded)
  | .verifyValue id message => do
    let octets := ((Hex.decode (String.ofList (Blank.trim message.toList))).toOption).getD []
    let value ← onDevice (device.verify id octets)
    printLine value.text
  | .provisionDemo hubName hubPort => provisionDemo device hubName hubPort
  | .infer model input steps => do
    let publicKey ← onDevice (device.publicKey KeyId.coseSign)
    let inputs := match input with
      | some x => [x]
      | none => sweep steps
    inputs.forM (printInference device publicKey model)

/-- The text about malformed hexadecimal. -/
def malformedText : Hex.Malformed → String
  | .oddLength => "Odd number of digits"
  | .badDigit value position =>
    "Invalid character " ++ Quoted.character (Char.ofNat value.toNat) ++ " at position " ++
      toString position

/-- What a command needs before a device is opened: hexadecimal has to be well formed. -/
def precheck : Command → Except CommandFailure Unit
  | .verifyValue _ message =>
    match Hex.decode (String.ofList (Blank.trim message.toList)) with
    | .ok _ => .ok ()
    | .error e => .error (.outside ("payload is not hex: " ++ malformedText e))
  | _ => .ok ()

/-- The settings under which a command runs: those of the document at its path, if there is one,
with the organization and the label suffix given.  `fileText` gives the text of a file, or why there
is none. -/
def settings (fileText : String → Except String String) (invocation : Invocation) :
    Except CommandFailure Settings := do
  let base ← match invocation.settingsPath with
    | none => pure ({} : Settings)
    | some path =>
      match fileText path with
      | .error reason => throw (.outside ("failed to read config " ++ path ++ ": " ++ reason))
      | .ok document =>
        match Settings.parse document with
        | .ok settings => pure settings
        | .error failure =>
          throw (.outside ("invalid config " ++ path ++ ": " ++ failure.label))
  return { base with
    organization := invocation.organization.getD base.organization
    labelSuffix := invocation.labelSuffix.getD base.labelSuffix }

/-- The report of a command that ends before a device is opened. -/
def failed (output : String) (failure : CommandFailure) : Report :=
  { code := 1, output, errors := "error: " ++ failure.text ++ "\n" }

end Shell

namespace Invocation

open Shell

/-- Opens a device over an emulated partition and runs a command on it. -/
def runOn (settings : Settings) (hardwareKey : Bytes) (command : Command) : Report :=
  let device : Device Partition := { service := Partition.service, settings }
  let start : Session := { device := device.start { hardwareKey } }
  let step : Action Session Unit := do
    let _ ← onDevice device.init
    perform device command
  let outcome := step.run start
  match outcome.result with
  | .ok () => { code := 0, output := outcome.state.output }
  | .error cause => failed outcome.state.output (.operation cause)

/-- Runs a command.  The version needs no device.  `chance` is the hardware key of a device that is
given none. -/
def run (fileText : String → Except String String) (chance : Bytes) (invocation : Invocation) :
    Report :=
  match invocation.command with
  | .version => { code := 0, output := Device.version ++ "\n" }
  | command =>
    let prepared := do
      precheck command
      settings fileText invocation
    match prepared with
    | .error failure => failed "" failure
    | .ok settings => runOn settings (invocation.seed.getD chance) command

end Invocation

namespace Shell

/-- The name of the program. -/
def programName : String := "huk-identity"

/-- The version of the program. -/
def programVersion : String := "0.3.0"

/-- How the program is used. -/
def usage : String :=
  "Usage: huk-identity [OPTIONS] <COMMAND>\n\n" ++
  "Commands:\n" ++
  "  info uuid|version\n" ++
  "  keys status|public [--key-id <ID>]\n" ++
  "  csr generate [--key-id <ID>] [--format pem|der|json]\n" ++
  "  cose sign --value <NUMBER> [--format cbor|cose]\n" ++
  "  cose verify [--key-id <ID>] --payload <HEX>\n" ++
  "  provision demo [--hubname <NAME>] [--hubport <PORT>]\n" ++
  "  infer [--engine tflm|utvm] [--input <NUMBER> | --steps <COUNT>]\n\n" ++
  "Options:\n" ++
  "  --org <NAME>  --label-suffix <TEXT>  --seed <HEX>  --config <PATH>  -v, --verbose\n"

/-- Reads arguments and runs what they ask for.  Wrong arguments end with code 2. -/
def report (environment : String → Option String) (fileText : String → Except String String)
    (chance : Bytes) (arguments : List String) : Report :=
  match Invocation.read environment arguments with
  | .error .version => { code := 0, output := programName ++ " " ++ programVersion ++ "\n" }
  | .error .help => { code := 0, output := usage }
  | .error .wrong => { code := 2, errors := usage }
  | .ok invocation => invocation.run fileText chance

end Shell

end DeviceIdentity

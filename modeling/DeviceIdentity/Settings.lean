import DeviceIdentity.Failure
import DeviceIdentity.Json.Reader

/-!
# Settings

The settings of a device: the organization in the subject of its certificate requests, a suffix for
every derivation label, the sizes of two working buffers, and how long to wait for provisioning.

A settings document is a JSON object whose members are some of the settings, each once, or an array
of the first few settings in order.  What a document leaves out keeps its default.
-/

namespace DeviceIdentity

/-- The settings of a device. -/
structure Settings where
  /-- The organization in the subject of certificate requests. -/
  organization : String := "Linaro"
  /-- What is appended to every derivation label; nothing leaves the partition's own suffix. -/
  labelSuffix : String := ""
  /-- The size of the buffer in which certificate requests are written. -/
  csrBufferSize : UInt64 := 1024
  /-- The size of the buffer for signed values. -/
  coseBufferSize : UInt64 := 256
  /-- How many milliseconds to wait for provisioning; without a number, forever. -/
  provisionTimeoutMs : Option UInt64 := none
  deriving DecidableEq, Repr

namespace Settings

/-- The names of the settings in a document, in order. -/
def names : List String :=
  ["organization", "label_suffix", "csr_buffer_size", "cose_buffer_size", "provision_timeout_ms"]

/-- The text that a JSON value is. -/
def text? : Json → Option String
  | .text value => some value
  | _ => none

/-- The number below `2 ^ 64` that a JSON value is. -/
def word? : Json → Option UInt64
  | .number value =>
    match value.natural? with
    | some n => if n < 2 ^ 64 then some (UInt64.ofNat n) else none
    | none => none
  | _ => none

/-- The number below `2 ^ 64`, or nothing, that a JSON value is. -/
def optionalWord? : Json → Option (Option UInt64)
  | .null => some none
  | value => (word? value).map some

/-- Replaces the setting called `name`. -/
def set? (settings : Settings) (name : String) (value : Json) : Option Settings :=
  match name with
  | "organization" => (text? value).map fun v => { settings with organization := v }
  | "label_suffix" => (text? value).map fun v => { settings with labelSuffix := v }
  | "csr_buffer_size" => (word? value).map fun v => { settings with csrBufferSize := v }
  | "cose_buffer_size" => (word? value).map fun v => { settings with coseBufferSize := v }
  | "provision_timeout_ms" =>
    (optionalWord? value).map fun v => { settings with provisionTimeoutMs := v }
  | _ => none

/-- Replaces settings one after the other. -/
def setAll? (settings : Settings) (members : List (String × Json)) : Option Settings :=
  members.foldlM (fun settings (name, value) => settings.set? name value) settings

/-- The settings that a JSON value gives. -/
def ofJson? : Json → Option Settings
  | .object members =>
    if (members.map Prod.fst).Nodup then setAll? {} members else none
  | .array items =>
    if items.length ≤ names.length then setAll? {} (names.zip items) else none
  | _ => none

/-- Reads a settings document.  One text stands for all that can be wrong with the document: what a
reader of JSON says about the place and the kind of the fault is not kept. -/
def parse (document : String) : Except Failure Settings :=
  match (Json.parse? document).bind ofJson? with
  | some settings => .ok settings
  | none => .error (.serialization "not a settings document")

/-- The settings as a JSON object with every member, in order. -/
def toJson (settings : Settings) : Json :=
  .object [
    ("organization", .text settings.organization),
    ("label_suffix", .text settings.labelSuffix),
    ("csr_buffer_size", .number (.ofNat settings.csrBufferSize.toNat)),
    ("cose_buffer_size", .number (.ofNat settings.coseBufferSize.toNat)),
    ("provision_timeout_ms", match settings.provisionTimeoutMs with
      | some ms => .number (.ofNat ms.toNat)
      | none => .null)]

/-- The settings as a document. -/
def print (settings : Settings) : String :=
  settings.toJson.print

end Settings

end DeviceIdentity

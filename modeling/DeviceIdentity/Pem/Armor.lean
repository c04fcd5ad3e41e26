import DeviceIdentity.Failure
import DeviceIdentity.Pem.Base64
import DeviceIdentity.Text.Rows

/-!
# PEM armor

Octets travel as text between a BEGIN and an END marker with a common label, in base64 lines of 64
characters.  Reading takes what stands between the first BEGIN marker and the first END marker
after it, drops ASCII white space, and ignores all else.
-/

namespace DeviceIdentity

namespace Pem

/-- The marker before the body. -/
def beginMarker (label : String) : String := "-----BEGIN " ++ label ++ "-----"

/-- The marker after the body. -/
def endMarker (label : String) : String := "-----END " ++ label ++ "-----"

/-- Octets as armored text. -/
def encode (label : String) (octets : Bytes) : String :=
  let lines := (rows 64 (Base64.encode octets)).map fun row => String.ofList row ++ "\n"
  beginMarker label ++ "\n" ++ String.join lines ++ endMarker label ++ "\n"

/-- What stands before and after the first occurrence of `marker`. -/
def cut? (marker : List Char) : List Char → Option (List Char × List Char)
  | [] => if marker = [] then some ([], []) else none
  | c :: cs =>
    match marker.isPrefixOf? (c :: cs) with
    | some rest => some ([], rest)
    | none => (cut? marker cs).map fun (before, after) => (c :: before, after)

/-- Whether `c` is white space of ASCII that a body may contain. -/
def isFiller (c : Char) : Bool :=
  c == ' ' || c == '\t' || c == '\n' || c == '\x0c' || c == '\r'

/-- The octets of armored text. -/
def decode (label text : String) : Except Failure Bytes :=
  let body? := do
    let (_, after) ← cut? (beginMarker label).toList text.toList
    let (body, _) ← cut? (endMarker label).toList after
    Base64.decode (body.filter fun c => !isFiller c)
  match body? with
  | some octets => .ok octets
  | none => .error .encodingFailed

end Pem

end DeviceIdentity

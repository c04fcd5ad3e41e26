import DeviceIdentity.Der.Write

/-!
# Reading DER headers

`DerHeader.read` reads the tag and the length field at the front of some octets, in the short form
or in the long form with one or two octets.  `DerHeader.checkSequence` accepts exactly one
SEQUENCE that covers all octets given.
-/

namespace DeviceIdentity

/-- What the header of an element says. -/
structure DerHeader where
  /-- The tag. -/
  tag : UInt8
  /-- How many octets the content has. -/
  contentLength : Nat
  /-- How many octets the header itself takes. -/
  headerLength : Nat
  deriving DecidableEq, Repr

namespace DerHeader

/-- Reads the header at the front; a header that is cut off or uses another length form is
refused. -/
def read : Bytes → Except Failure DerHeader
  | tag :: first :: rest =>
    if first < 0x80 then .ok ⟨tag, first.toNat, 2⟩
    else if first = 0x81 then
      match rest with
      | n :: _ => .ok ⟨tag, n.toNat, 3⟩
      | _ => .error .encodingFailed
    else if first = 0x82 then
      match rest with
      | hi :: lo :: _ => .ok ⟨tag, 256 * hi.toNat + lo.toNat, 4⟩
      | _ => .error .encodingFailed
    else .error .encodingFailed
  | _ => .error .encodingFailed

/-- The content length of the one SEQUENCE that `bs` is. -/
def checkSequence (bs : Bytes) : Except Failure Nat := do
  let header ← read bs
  if header.tag = Der.sequenceTag ∧ header.headerLength + header.contentLength = bs.length then
    return header.contentLength
  else throw .encodingFailed

end DerHeader

end DeviceIdentity

import DeviceIdentity.Bytes.Hex

/-!
# Device UUIDs

A UUID is made from sixteen octets by forcing the bits that mark version 4 and the standard
variant, and is written in lowercase hexadecimal in groups of 8, 4, 4, 4 and 12 digits.

Main statement: forcing the bits twice changes nothing (`Uuid.markVersion4_idem`).
-/

namespace DeviceIdentity

namespace Uuid

/-- Forces version 4 into the high half of octet 6 and variant `10` into the top of octet 8. -/
def markVersion4 (bs : Bytes) : Bytes :=
  (bs.modify 6 fun b => (b &&& 0x0F) ||| 0x40).modify 8 fun b => (b &&& 0x3F) ||| 0x80

/-- Groups of 8, 4, 4, 4 and 12 lowercase digits with hyphens between them. -/
def format (bs : Bytes) : String :=
  let group (start count : Nat) := Hex.encode ((bs.drop start).take count)
  "-".intercalate [group 0 4, group 4 2, group 6 2, group 8 2, group 10 6]

/-- Clearing bits and then setting some is the same when done twice. -/
theorem mask_idem (kept set b : UInt8) :
    (((b &&& kept) ||| set) &&& kept) ||| set = (b &&& kept) ||| set := by
  apply UInt8.toBitVec_inj.1
  simp only [UInt8.toBitVec_and, UInt8.toBitVec_or]
  ext i
  simp only [BitVec.getElem_and, BitVec.getElem_or]
  cases kept.toBitVec[i] <;> cases set.toBitVec[i] <;> simp

/-- Forcing the bits twice changes nothing. -/
theorem markVersion4_idem (bs : Bytes) : markVersion4 (markVersion4 bs) = markVersion4 bs := by
  have h6 : ∀ b : UInt8, (((b &&& 0x0F) ||| 0x40) &&& 0x0F) ||| 0x40 = (b &&& 0x0F) ||| 0x40 :=
    mask_idem 0x0F 0x40
  have h8 : ∀ b : UInt8, (((b &&& 0x3F) ||| 0x80) &&& 0x3F) ||| 0x80 = (b &&& 0x3F) ||| 0x80 :=
    mask_idem 0x3F 0x80
  apply List.ext_getElem?
  intro i
  simp only [markVersion4, List.getElem?_modify]
  by_cases i6 : 6 = i
  · subst i6; cases bs[6]? <;> simp [h6]
  · by_cases i8 : 8 = i
    · subst i8; cases bs[8]? <;> simp [h8]
    · simp [i6, i8]

end Uuid

end DeviceIdentity

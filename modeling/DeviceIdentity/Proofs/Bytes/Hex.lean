import Mathlib.Data.List.Forall2
import DeviceIdentity.Bytes.Hex
import DeviceIdentity.Proofs.Bytes

/-!
# Hexadecimal text reads back

An octet is always written with two digits, and is read from two digits of either case.  The reader
takes the octets of the text's encoding two by two, so a written text has to be encoded first, one
octet a digit.

* `digits` — the digits that are written; `octet_forall₂` — an octet is written with two of them.
* `ofText_encode_cons` — what is written for one octet is read as this octet, whatever follows.
* **`decode_encode`** — what is written for an octet string reads back.
-/

namespace DeviceIdentity

namespace Hex

/-- The digits that are written. -/
def digits : List Char := "0123456789abcdef".toList

lemma digit_mem_digits {n : Nat} (h : n < 16) : digit n ∈ digits := by
  have hall : ∀ k < 16, digit k ∈ digits := by decide
  exact hall n h

lemma octet_forall₂ (b : UInt8) : List.Forall₂ (· ∈ ·) (octet b) [digits, digits] := by
  have hb : b.toNat < 256 := b.toNat_lt
  exact .cons (digit_mem_digits (by omega)) (.cons (digit_mem_digits (by omega)) .nil)

/-- Two digits are written for each octet. -/
lemma flatMap_octet_forall₂ (bs : Bytes) :
    List.Forall₂ (· ∈ ·) (bs.flatMap octet) (List.replicate (2 * bs.length) digits) := by
  induction bs with
  | nil => exact .nil
  | cons b bs ih =>
    have hlength : List.replicate (2 * (b :: bs).length) digits =
        [digits, digits] ++ List.replicate (2 * bs.length) digits := by
      rw [List.length_cons, Nat.mul_succ, Nat.add_comm, ← List.replicate_append_replicate]
      rfl
    rw [hlength, List.flatMap_cons]
    exact List.rel_append (octet_forall₂ b) ih

/-- A digit is encoded as one octet, and this octet is its code. -/
lemma utf8EncodeChar_digit {n : Nat} (h : n < 16) :
    ∃ code : UInt8, String.utf8EncodeChar (digit n) = [code] ∧
      Char.ofNat code.toNat = digit n := by
  have hall : ∀ k < 16, String.utf8EncodeChar (digit k) = [UInt8.ofNat (digit k).toNat] ∧
      Char.ofNat (UInt8.ofNat (digit k).toNat).toNat = digit k := by
    decide
  exact ⟨_, hall n h⟩

/-- What is written for one octet is encoded in two octets, and read as the one. -/
lemma ofText_encode_cons (b : UInt8) (bs : Bytes) :
    ∃ high low : UInt8, Bytes.ofText (encode (b :: bs)) = high :: low :: Bytes.ofText (encode bs) ∧
      ∀ position rest, decodePairs position (high :: low :: rest) =
        (decodePairs (position + 2) rest).map (b :: ·) := by
  have hb : b.toNat < 256 := b.toNat_lt
  have hfirst : b.toNat / 16 < 16 := by omega
  have hsecond : b.toNat % 16 < 16 := by omega
  obtain ⟨high, hhigh, hhigh'⟩ := utf8EncodeChar_digit hfirst
  obtain ⟨low, hlow, hlow'⟩ := utf8EncodeChar_digit hsecond
  refine ⟨high, low, ?_, fun position rest => ?_⟩
  · have hoctet : (octet b).flatMap String.utf8EncodeChar = [high, low] := by
      rw [octet, List.flatMap_cons, List.flatMap_singleton, hhigh, hlow]
      rfl
    rw [encode, encode, Bytes.ofText_ofList, Bytes.ofText_ofList, List.flatMap_cons,
      List.flatMap_append, hoctet]
    rfl
  · have hvalue : UInt8.ofNat (16 * (b.toNat / 16) + b.toNat % 16) = b := by
      rw [Nat.div_add_mod, UInt8.ofNat_toNat]
    simp only [decodePairs, hhigh', hlow', digitValue?_digit _ hfirst, digitValue?_digit _ hsecond,
      hvalue]

/-- The encoding has two octets for each octet, and these are read as the octets. -/
lemma decodePairs_ofText_encode (bs : Bytes) (position : Nat) :
    (Bytes.ofText (encode bs)).length = 2 * bs.length ∧
      decodePairs position (Bytes.ofText (encode bs)) = .ok bs := by
  induction bs generalizing position with
  | nil => exact ⟨rfl, rfl⟩
  | cons b bs ih =>
    obtain ⟨high, low, hwritten, hread⟩ := ofText_encode_cons b bs
    obtain ⟨hlength, hrest⟩ := ih (position + 2)
    rw [hwritten, hread, hrest]
    refine ⟨?_, rfl⟩
    rw [List.length_cons, List.length_cons, hlength, List.length_cons]
    omega

/-- **Hexadecimal text reads back.** -/
theorem decode_encode (bs : Bytes) : decode (encode bs) = .ok bs := by
  obtain ⟨hlength, hread⟩ := decodePairs_ofText_encode bs 0
  rw [decode, hlength, if_neg (by omega), hread]

end Hex

end DeviceIdentity

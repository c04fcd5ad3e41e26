import Mathlib.Data.List.Induction
import Mathlib.Tactic.Lemma
import Mathlib.Tactic.Ring
import Mathlib.Tactic.SplitIfs
import DeviceIdentity.Bytes

/-!
# Octet strings are numerals, and texts are octet strings

* `ofNat_toNat` — an octet string is the numeral of its number in its width.
* `toNat_eq_zero_iff` — the number of an octet string is zero exactly if all its octets are.
* `toText?_ofText` — the encoding of a text reads back as the text.
* `ofText_ofList` — a text is encoded character by character; `zero_notMem_ofText` — without a zero
  character, the encoding has no zero octet.
-/

namespace DeviceIdentity

namespace Bytes

/-- A string spells zero exactly if all its octets are zero. -/
lemma toNat_eq_zero_iff {bs : Bytes} : toNat bs = 0 ↔ ∀ b ∈ bs, b = 0 := by
  induction bs using List.reverseRecOn with
  | nil => simp
  | append_singleton bs b ih =>
    have hb : b = 0 ↔ b.toNat = 0 := by rw [← UInt8.toNat_inj]; rfl
    rw [toNat_concat, List.forall_mem_append, List.forall_mem_singleton, ← ih, hb]
    omega

lemma ofNat_toNat (bs : Bytes) : ofNat bs.length (toNat bs) = bs := by
  induction bs using List.reverseRecOn with
  | nil => rfl
  | append_singleton bs b ih =>
    have hb : b.toNat < 256 := b.toNat_lt
    have hdiv : (256 * toNat bs + b.toNat) / 256 = toNat bs := by omega
    have hmod : (256 * toNat bs + b.toNat) % 256 = b.toNat := by omega
    rw [toNat_concat, List.length_append, List.length_singleton, ofNat, hdiv, hmod, ih,
      UInt8.ofNat_toNat]

/-- Octet strings of one width are told apart by their numbers. -/
lemma eq_of_toNat_eq {as bs : Bytes} (hlength : as.length = bs.length)
    (h : toNat as = toNat bs) : as = bs := by
  rw [← ofNat_toNat as, ← ofNat_toNat bs, hlength, h]

@[simp] lemma toText?_ofText (text : String) : toText? (ofText text) = some text := by
  have hbytes : (⟨(ofText text).toArray⟩ : ByteArray) = text.toByteArray := by
    rw [ofText, Array.toArray_toList]
  rw [toText?, hbytes, String.fromUTF8?, dif_pos text.isValidUTF8]
  rfl

lemma ofText_ofList (cs : List Char) :
    ofText (String.ofList cs) = cs.flatMap String.utf8EncodeChar := by
  rw [ofText, String.toByteArray_ofList, List.utf8Encode, List.toList_data_toByteArray]

lemma zero_eq_ofNat_iff {n : Nat} : (0 : UInt8) = UInt8.ofNat n ↔ n % 256 = 0 := by
  rw [← UInt8.toNat_inj, UInt8.toNat_ofNat', eq_comm]
  rfl

/-- The zero octet is part of the encoding of no character but the zero character. -/
lemma eq_zero_of_mem_utf8EncodeChar {c : Char} (h : (0 : UInt8) ∈ String.utf8EncodeChar c) :
    c = '\x00' := by
  have hzero : c.val.toNat = 0 := by
    simp only [String.utf8EncodeChar] at h
    split_ifs at h <;>
      simp only [List.mem_cons, List.not_mem_nil, or_false, zero_eq_ofNat_iff] at h <;> omega
  exact Char.ext (UInt32.toNat_inj.1 hzero)

lemma zero_notMem_ofText {cs : List Char} (h : '\x00' ∉ cs) :
    (0 : UInt8) ∉ ofText (String.ofList cs) := by
  rw [ofText_ofList]
  intro hmem
  obtain ⟨c, hc, hzero⟩ := List.mem_flatMap.1 hmem
  rw [eq_zero_of_mem_utf8EncodeChar hzero] at hc
  exact h hc

end Bytes

end DeviceIdentity

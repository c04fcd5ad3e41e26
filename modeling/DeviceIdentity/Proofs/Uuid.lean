import Mathlib.Data.List.Forall2
import Mathlib.Data.List.GetD
import DeviceIdentity.Proofs.Bytes.Hex
import DeviceIdentity.Proofs.Partition.UuidCache
import DeviceIdentity.Proofs.Text.Pieces

/-!
# What a UUID tells of the octets it was made from

Six of the 128 bits of a UUID are forced, and the other 122 are those of the octets it was made
from.  The text has to show each of these: an octet has two digits even where the first is a zero,
and the hyphens stand where they can be taken out again.

* `IsVersion4` — the texts that version 4 allows, place by place.
* `octet_markVersion4` — which octets are changed, and how; `isVersion4_format` — after that the
  text is one of version 4.
* `withoutHyphens`, `decode_withoutHyphens` — without its hyphens the text reads back.
* `IsFixed`, `freeBits` — the bits that are forced, and the others; `bit_markVersion4` — a forced
  bit has one value, and the others are kept.
* `format_markVersion4_eq_iff` — two texts are the same exactly if the free bits are.
* `Partition.isVersion4_of_knownUuid` — what a partition remembers is a text of version 4.
* **`uuids_are_version4`** — all of this, for the octets and for the answers of a device.
-/

namespace DeviceIdentity

/-- Bit `i` of an octet string, counted from the highest bit of the first octet. -/
def Bytes.bit (bs : Bytes) (i : Nat) : Bool :=
  (bs.getD (i / 8) 0).toNat.testBit (7 - i % 8)

namespace Bytes

/-- Octet strings of one length are told apart by their bits. -/
lemma eq_of_bit_eq {bs cs : Bytes} (hlength : bs.length = cs.length)
    (h : ∀ i < 8 * bs.length, bs.bit i = cs.bit i) : bs = cs := by
  refine List.ext_getElem hlength fun k hk hk' => UInt8.toNat_inj.1 (Nat.eq_of_testBit_eq ?_)
  intro j
  by_cases hj : j < 8
  · have hbit := h (8 * k + (7 - j)) (by omega)
    have hoctet : (8 * k + (7 - j)) / 8 = k := by omega
    have hplace : 7 - (8 * k + (7 - j)) % 8 = j := by omega
    rwa [bit, bit, hoctet, hplace, List.getD_eq_getElem _ _ hk,
      List.getD_eq_getElem _ _ hk'] at hbit
  · -- an octet has no more bits
    have hhigh : ∀ b : UInt8, b.toNat.testBit j = false := fun b =>
      Nat.testBit_lt_two_pow (b.toNat_lt.trans_le (Nat.pow_le_pow_right (by omega) (by omega)))
    rw [hhigh, hhigh]

end Bytes

namespace Uuid

open DeviceIdentity.Action (Returns)
open Hex (digits octet)

variable {bs cs : Bytes}

/-! ## The text -/

/-- What may stand at each place of a UUID of version 4. -/
def places : List (List Char) :=
  [['-']].intercalate
    [List.replicate 8 digits, List.replicate 4 digits, ['4'] :: List.replicate 3 digits,
      ['8', '9', 'a', 'b'] :: List.replicate 3 digits, List.replicate 12 digits]

/-- A text in which each character may stand where it does. -/
def IsVersion4 (text : String) : Prop :=
  List.Forall₂ (· ∈ ·) text.toList places

/-- The octets that are written between two hyphens. -/
def groups (bs : Bytes) : List Bytes :=
  [bs.take 4, (bs.drop 4).take 2, (bs.drop 6).take 2, (bs.drop 8).take 2, (bs.drop 10).take 6]

lemma toList_format (bs : Bytes) :
    (format bs).toList = ['-'].intercalate ((groups bs).map (·.flatMap octet)) := by
  rw [format, String.toList_intercalate]
  simp [groups, Hex.encode]

lemma flatten_groups (h : bs.length = 16) : (groups bs).flatten = bs := by
  have hlast : (bs.drop 10).take 6 = bs.drop 10 := List.take_of_length_le (by simp [h])
  have hdrop : ∀ n m : Nat, (bs.drop n).take m ++ bs.drop (n + m) = bs.drop n := fun n m => by
    rw [← List.drop_drop, List.take_append_drop]
  simp only [groups, List.flatten_cons, List.flatten_nil, List.append_nil, hlast]
  rw [hdrop 8 2, hdrop 6 2, hdrop 4 2, List.take_append_drop]

/-- Two octets from the middle of a string. -/
lemma take_two_drop {n : Nat} (h : n + 1 < bs.length) :
    (bs.drop n).take 2 = [bs.getD n 0, bs.getD (n + 1) 0] := by
  rw [List.drop_eq_getElem_cons (by omega), List.drop_eq_getElem_cons h,
    List.getD_eq_getElem _ _ (by omega), List.getD_eq_getElem _ _ h]
  rfl

/-! ## The forced octets -/

@[simp] lemma length_markVersion4 (bs : Bytes) : (markVersion4 bs).length = bs.length := by
  simp [markVersion4]

/-- Octets 6 and 8 are changed, and no others. -/
lemma octet_markVersion4 (h : bs.length = 16) (n : Nat) :
    (markVersion4 bs).getD n 0 =
      if n = 6 then (bs.getD 6 0 &&& 0x0F) ||| 0x40
      else if n = 8 then (bs.getD 8 0 &&& 0x3F) ||| 0x80
      else bs.getD n 0 := by
  simp only [markVersion4, List.getD_eq_getElem?_getD, List.getElem?_modify]
  by_cases h6 : n = 6
  · subst h6
    simp [h]
  · by_cases h8 : n = 8
    · subst h8
      simp [h]
    · simp [h6, h8, Ne.symm h6, Ne.symm h8]

lemma octet_version (b : UInt8) :
    List.Forall₂ (· ∈ ·) (octet ((b &&& 0x0F) ||| 0x40)) [['4'], digits] := by
  have hall : ∀ n < 256, octet ((UInt8.ofNat n &&& 0x0F) ||| 0x40) =
      ['4', Hex.digit (n % 16)] := by
    decide +kernel
  rw [← b.ofNat_toNat, hall _ b.toNat_lt]
  exact .cons (by decide) (.cons (Hex.digit_mem_digits (Nat.mod_lt _ (by decide))) .nil)

lemma octet_variant (b : UInt8) :
    List.Forall₂ (· ∈ ·) (octet ((b &&& 0x3F) ||| 0x80)) [['8', '9', 'a', 'b'], digits] := by
  have hall : ∀ n < 256, octet ((UInt8.ofNat n &&& 0x3F) ||| 0x80) =
      [Hex.digit (8 + n % 64 / 16), Hex.digit (n % 16)] := by
    decide +kernel
  have hfirst : ∀ k < 4, Hex.digit (8 + k) ∈ ['8', '9', 'a', 'b'] := by decide
  rw [← b.ofNat_toNat, hall _ b.toNat_lt]
  exact .cons (hfirst _ (by omega)) (.cons (Hex.digit_mem_digits (Nat.mod_lt _ (by decide))) .nil)

/-- A UUID is a text of version 4. -/
lemma isVersion4_format (h : bs.length = 16) : IsVersion4 (format (markVersion4 bs)) := by
  have hany : ∀ (group : Bytes) (count : Nat), 2 * group.length = count →
      List.Forall₂ (· ∈ ·) (group.flatMap octet) (List.replicate count digits) := by
    rintro group _ rfl
    exact Hex.flatMap_octet_forall₂ group
  have hthird : ((markVersion4 bs).drop 6).take 2 =
      [(bs.getD 6 0 &&& 0x0F) ||| 0x40, bs.getD 7 0] := by
    rw [take_two_drop (by simp [h]), octet_markVersion4 h, octet_markVersion4 h]
    rfl
  have hfourth : ((markVersion4 bs).drop 8).take 2 =
      [(bs.getD 8 0 &&& 0x3F) ||| 0x80, bs.getD 9 0] := by
    rw [take_two_drop (by simp [h]), octet_markVersion4 h, octet_markVersion4 h]
    rfl
  rw [IsVersion4, toList_format]
  refine forall₂_intercalate (List.mem_singleton.2 rfl) ?_
  simp only [groups, List.map_cons, List.map_nil, hthird, hfourth, List.flatMap_cons,
    List.flatMap_nil, List.append_nil]
  refine .cons (hany _ _ (by simp [h])) (.cons (hany _ _ (by simp [h])) (.cons ?_ (.cons ?_
    (.cons (hany _ _ (by simp [h])) .nil))))
  · exact List.rel_append (octet_version _) (Hex.octet_forall₂ _)
  · exact List.rel_append (octet_variant _) (Hex.octet_forall₂ _)

/-! ## Reading the text -/

/-- The text with its hyphens taken out. -/
def withoutHyphens (text : String) : String :=
  String.ofList (text.toList.filter (· ≠ '-'))

lemma hyphen_notMem_octets (bs : Bytes) : '-' ∉ bs.flatMap octet := by
  intro hmem
  obtain ⟨b, -, hb⟩ := List.mem_flatMap.1 hmem
  have hdigits : ∀ c ∈ octet b, c ∈ digits := by
    have hb : b.toNat < 256 := b.toNat_lt
    simp only [octet, List.forall_mem_cons]
    exact ⟨Hex.digit_mem_digits (by omega), Hex.digit_mem_digits (by omega),
      List.forall_mem_nil _⟩
  exact absurd (hdigits _ hb) (by decide)

lemma withoutHyphens_format (h : bs.length = 16) : withoutHyphens (format bs) = Hex.encode bs := by
  have hpieces : ∀ piece ∈ (groups bs).map (·.flatMap octet), '-' ∉ piece := by
    intro piece hmem
    obtain ⟨group, -, rfl⟩ := List.mem_map.1 hmem
    exact hyphen_notMem_octets group
  have hflatten : ((groups bs).map (·.flatMap octet)).flatten = bs.flatMap octet := by
    conv_rhs => rw [← flatten_groups h, List.flatten_eq_flatMap, List.flatMap_assoc]
    rw [← List.flatMap_def]
    rfl
  rw [withoutHyphens, toList_format, filter_intercalate hpieces, hflatten, Hex.encode]

/-- Without its hyphens the text of sixteen octets reads back. -/
lemma decode_withoutHyphens (h : bs.length = 16) :
    Hex.decode (withoutHyphens (format bs)) = .ok bs := by
  rw [withoutHyphens_format h, Hex.decode_encode]

lemma format_inj (hbs : bs.length = 16) (hcs : cs.length = 16) (h : format bs = format cs) :
    bs = cs := by
  have hread := decode_withoutHyphens hbs
  rw [h, decode_withoutHyphens hcs] at hread
  exact (Except.ok.inj hread).symm

/-! ## The bits that are free -/

/-- The high half of octet 6, and the highest two bits of octet 8. -/
def IsFixed (i : Nat) : Prop :=
  (i / 8 = 6 ∧ i % 8 < 4) ∨ (i / 8 = 8 ∧ i % 8 < 2)

instance : DecidablePred IsFixed := fun _ => inferInstanceAs (Decidable (_ ∨ _))

/-- The other bits of sixteen octets. -/
def freeBits : List Nat := (List.range 128).filter (¬IsFixed ·)

lemma length_freeBits : freeBits.length = 122 := by decide +kernel

lemma mem_freeBits {i : Nat} : i ∈ freeBits ↔ i < 128 ∧ ¬IsFixed i := by
  simp [freeBits]

/-- Bits are counted from the highest. -/
lemma testBit_version (b : UInt8) {j : Nat} (h : j < 8) :
    ((b &&& 0x0F) ||| 0x40).toNat.testBit (7 - j) =
      if j < 4 then decide (j = 1) else b.toNat.testBit (7 - j) := by
  have hall : ∀ j < 8, (0x0F : UInt8).toNat.testBit (7 - j) = decide (¬j < 4) ∧
      (0x40 : UInt8).toNat.testBit (7 - j) = decide (j = 1) := by
    decide
  obtain ⟨hkept, hset⟩ := hall j h
  rw [UInt8.toNat_or, UInt8.toNat_and, Nat.testBit_or, Nat.testBit_and, hkept, hset]
  by_cases hj : j < 4
  · simp [hj]
  · simp [hj, show j ≠ 1 by omega]

lemma testBit_variant (b : UInt8) {j : Nat} (h : j < 8) :
    ((b &&& 0x3F) ||| 0x80).toNat.testBit (7 - j) =
      if j < 2 then decide (j = 0) else b.toNat.testBit (7 - j) := by
  have hall : ∀ j < 8, (0x3F : UInt8).toNat.testBit (7 - j) = decide (¬j < 2) ∧
      (0x80 : UInt8).toNat.testBit (7 - j) = decide (j = 0) := by
    decide
  obtain ⟨hkept, hset⟩ := hall j h
  rw [UInt8.toNat_or, UInt8.toNat_and, Nat.testBit_or, Nat.testBit_and, hkept, hset]
  by_cases hj : j < 2
  · simp [hj]
  · simp [hj, show j ≠ 0 by omega]

/-- A forced bit has one value, and the others are kept. -/
lemma bit_markVersion4 (h : bs.length = 16) (i : Nat) :
    (markVersion4 bs).bit i = if IsFixed i then decide (i = 49 ∨ i = 64) else bs.bit i := by
  have hplace : i % 8 < 8 := Nat.mod_lt _ (by decide)
  rw [Bytes.bit, octet_markVersion4 h, Bytes.bit]
  by_cases h6 : i / 8 = 6
  · have hfixed : IsFixed i ↔ i % 8 < 4 := by rw [IsFixed]; omega
    have hset : (i = 49 ∨ i = 64) ↔ i % 8 = 1 := by omega
    rw [if_pos h6, testBit_version _ hplace, h6]
    simp only [hfixed, hset]
  · by_cases h8 : i / 8 = 8
    · have hfixed : IsFixed i ↔ i % 8 < 2 := by rw [IsFixed]; omega
      have hset : (i = 49 ∨ i = 64) ↔ i % 8 = 0 := by omega
      rw [if_neg h6, if_pos h8, testBit_variant _ hplace, h8]
      simp only [hfixed, hset]
    · have hfree : ¬IsFixed i := by rw [IsFixed]; omega
      rw [if_neg h6, if_neg h8, if_neg hfree]

/-- **Two UUIDs are the same text exactly if the free bits are the same.** -/
lemma format_markVersion4_eq_iff (hbs : bs.length = 16) (hcs : cs.length = 16) :
    format (markVersion4 bs) = format (markVersion4 cs) ↔
      ∀ i ∈ freeBits, bs.bit i = cs.bit i := by
  constructor
  · intro h i hi
    have hmarked : markVersion4 bs = markVersion4 cs := format_inj (by simp [hbs]) (by simp [hcs]) h
    have hbit := bit_markVersion4 hbs i
    rwa [hmarked, bit_markVersion4 hcs, if_neg (mem_freeBits.1 hi).2, if_neg (mem_freeBits.1 hi).2,
      eq_comm] at hbit
  · intro h
    refine congrArg format (Bytes.eq_of_bit_eq (by simp [hbs, hcs]) fun i hi => ?_)
    rw [length_markVersion4, hbs] at hi
    rw [bit_markVersion4 hbs, bit_markVersion4 hcs]
    split_ifs with hfixed
    · rfl
    · exact h i (mem_freeBits.2 ⟨hi, hfixed⟩)

end Uuid

/-! ## The UUIDs of devices -/

open Uuid (IsVersion4)

/-- Whoever derives the octets, there are sixteen of them. -/
lemma Deriver.isVersion4_of_returns {σ : Type} {d : Deriver σ} {s s' : σ} {uuid : String}
    (h : d.uuid.Returns s uuid s') : IsVersion4 uuid := by
  obtain ⟨marked, _, hmarked, h⟩ := Action.returns_bind.1 h
  obtain ⟨octets, _, hoctets, hmark⟩ := Action.returns_bind.1 hmarked
  obtain ⟨rfl, -⟩ := Action.returns_pure.1 h
  obtain ⟨rfl, -⟩ := Action.returns_pure.1 hmark
  exact Uuid.isVersion4_format (returns_block_iff.1 hoctets).2

namespace Partition

variable {s : Partition} {uuid : String}

lemma isVersion4_derivedUuid (s : Partition) : IsVersion4 s.derivedUuid :=
  Uuid.isVersion4_format (length_derived ..)

/-- What a partition remembers, it has derived at some time. -/
lemma isVersion4_of_knownUuid {uses : List Use} (hstart : s.knownUuid = none)
    (h : (s.used uses).knownUuid = some uuid) : IsVersion4 uuid := by
  obtain ⟨front, -, -, rfl, -⟩ := origin_of_knownUuid hstart h
  exact isVersion4_derivedUuid _

lemma isVersion4_of_returns {uses : List Use} {s' : Partition} (hstart : s.knownUuid = none)
    (h : deviceUuid.Returns (s.used uses) uuid s') : IsVersion4 uuid := by
  obtain ⟨-, rfl, -⟩ := returns_deviceUuid_iff.1 h
  cases hknown : (s.used uses).knownUuid with
  | none => exact isVersion4_derivedUuid _
  | some known => exact isVersion4_of_knownUuid hstart hknown

end Partition

namespace Uuid

/-- **UUIDs are of version 4 and keep every free bit.**  Sixteen octets, once marked, are written as
a text of version 4, which reads back without its hyphens, and marking them again changes nothing.
Two such texts are the same exactly if the octets agree in their 122 free bits.  The UUID that any
deriver derives is such a text, and so is each that a new partition answers with, whatever it was
used for before. -/
theorem uuids_are_version4 :
    (∀ bs : Bytes, bs.length = 16 →
      IsVersion4 (format (markVersion4 bs)) ∧
        Hex.decode (withoutHyphens (format (markVersion4 bs))) = .ok (markVersion4 bs) ∧
        markVersion4 (markVersion4 bs) = markVersion4 bs) ∧
    (∀ bs cs : Bytes, bs.length = 16 → cs.length = 16 →
      (format (markVersion4 bs) = format (markVersion4 cs) ↔
        ∀ i ∈ freeBits, bs.bit i = cs.bit i)) ∧
    freeBits.length = 122 ∧
    (∀ {σ : Type} (d : Deriver σ) (s s' : σ) (uuid : String),
      d.uuid.Returns s uuid s' → IsVersion4 uuid) ∧
    ∀ (hardwareKey : Bytes) (uses : List Partition.Use) (uuid : String) (s' : Partition),
      Partition.deviceUuid.Returns (({ hardwareKey } : Partition).used uses) uuid s' →
        IsVersion4 uuid := by
  refine ⟨fun bs h => ⟨isVersion4_format h, ?_, markVersion4_idem bs⟩,
    fun bs cs => format_markVersion4_eq_iff, length_freeBits,
    fun d s s' uuid => Deriver.isVersion4_of_returns, ?_⟩
  · exact decode_withoutHyphens (by rw [length_markVersion4, h])
  · exact fun hardwareKey uses uuid s' => Partition.isVersion4_of_returns rfl

/-- Where all octets are zeros, setting the forced bits leaves the text as it is and setting another
one does not.  A partition derives such a text, and answers with it also after it was set up
again. -/
theorem uuids_are_version4_zeros :
    let zeros : Bytes := List.replicate 16 0
    let forced : Bytes := (zeros.set 6 0xF0).set 8 0xC0
    let other : Bytes := zeros.set 6 0x08
    (IsVersion4 (format (markVersion4 zeros)) ∧
      Hex.decode (withoutHyphens (format (markVersion4 zeros))) = .ok (markVersion4 zeros) ∧
      format (markVersion4 zeros) = format (markVersion4 forced) ∧
      format (markVersion4 zeros) ≠ format (markVersion4 other)) ∧
    (∃ uuid, Partition.deriver.uuid.Returns Partition.onesPartition uuid Partition.onesPartition ∧
      IsVersion4 uuid) ∧
    ∃ uuid s',
      Partition.deviceUuid.Returns (Partition.onesPartition.used Partition.lateRun) uuid s' ∧
        IsVersion4 uuid := by
  intro zeros forced other
  obtain ⟨htext, hsame, -, hderiver, hpartition⟩ := uuids_are_version4
  obtain ⟨hversion, hread, -⟩ := htext zeros rfl
  refine ⟨⟨hversion, hread, ?_, ?_⟩, ?_, ?_⟩
  · exact (hsame zeros forced rfl rfl).2 (by decide +kernel)
  · rw [Ne, hsame zeros other rfl rfl]
    decide +kernel
  · have hreturns := Partition.returns_uuid.2
      (⟨rfl, rfl, rfl⟩ : Partition.onesPartition.online = true ∧ _ ∧ _)
    exact ⟨_, hreturns, hderiver _ _ _ _ hreturns⟩
  · have honline : (Partition.onesPartition.used Partition.lateRun).online = true := by
      rw [Partition.used_lateRun]
      rfl
    have hreturns := Partition.returns_deviceUuid_iff.2 ⟨honline, rfl, rfl⟩
    exact ⟨_, _, hreturns, hpartition _ _ _ _ hreturns⟩

end Uuid

end DeviceIdentity

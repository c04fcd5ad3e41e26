import DeviceIdentity.Proofs.Bytes
import DeviceIdentity.Proofs.CaExchange

/-!
# The provisioning record in a buffer

A device hands its provisioning record on as octets: the certificate, the name of the hub, a zero
octet, and the port.  Whoever reads them knows how long the certificate is and takes the first zero
octet after it for the end of the name.  The name comes from a text of the certificate authority,
and a text may have a zero character anywhere.  Such a name ends too early, and what follows the
zero character is taken for the port.

* `ProvisionRecord.read?` — reads a record as the layout says, and returns what is left over.
* `writeSegments_of_le` — with enough room, all segments are copied one after the other.
* `read?_append` — up to the first zero octet the record reads back, whatever follows.
* **`CaExchange.record_reads_back`** — the record of a response reads back exactly if its hub has no
  zero character in the name; and what is read otherwise.
* **`CaExchange.name_cut_at_zero`** — a response whose record is read as that of another hub.
-/

namespace DeviceIdentity

open DeviceIdentity.Action (Returns)

namespace ProvisionRecord

/-! ## Reading a record -/

/-- Reads a record whose certificate has `n` octets: the certificate, the name up to the first zero
octet, and the port in two octets.  Also returns what is left over. -/
def read? (n : Nat) (octets : Bytes) : Option (ProvisionRecord × Bytes) :=
  let rest := octets.drop n
  match rest.dropWhile (· != 0) with
  | _ :: high :: low :: after =>
    (Bytes.toText? (rest.takeWhile (· != 0))).map fun name =>
      (⟨octets.take n, name, UInt16.ofNat (Bytes.toNat [high, low])⟩, after)
  | _ => none

/-- A name without a zero character is read up to the zero octet behind it. -/
lemma read?_append {name : List Char} (h : '\x00' ∉ name) (certificate : Bytes) (high low : UInt8)
    (after : Bytes) :
    read? certificate.length
        (certificate ++ (Bytes.ofText (String.ofList name) ++ 0 :: high :: low :: after)) =
      some (⟨certificate, String.ofList name, UInt16.ofNat (Bytes.toNat [high, low])⟩, after) := by
  have hnonzero : ∀ b ∈ Bytes.ofText (String.ofList name), (b != 0) = true := by
    intro b hb
    rw [bne_iff_ne]
    rintro rfl
    exact Bytes.zero_notMem_ofText h hb
  have hdrop : (Bytes.ofText (String.ofList name) ++ 0 :: high :: low :: after).dropWhile (· != 0) =
      0 :: high :: low :: after := List.dropWhile_append_of_pos hnonzero
  have htake : (Bytes.ofText (String.ofList name) ++ 0 :: high :: low :: after).takeWhile (· != 0) =
      Bytes.ofText (String.ofList name) := by
    rw [List.takeWhile_append_of_pos hnonzero]
    exact List.append_nil _
  simp only [read?, List.drop_left, List.take_left, hdrop, htake, Bytes.toText?_ofText,
    Option.map_some]

/-! ## Writing a record -/

/-- With enough room, all segments are copied one after the other. -/
lemma writeSegments_of_le {segments : List Bytes} {done free : Bytes}
    (h : segments.flatten.length ≤ free.length) :
    writeSegments done free segments =
      (.ok (done.length + segments.flatten.length),
        done ++ (segments.flatten ++ free.drop segments.flatten.length)) := by
  induction segments generalizing done free with
  | nil => rfl
  | cons segment rest ih =>
    rw [List.flatten_cons, List.length_append] at h
    have hrest : rest.flatten.length ≤ (free.drop segment.length).length := by
      rw [List.length_drop]
      omega
    rw [writeSegments, if_pos (by omega), ih hrest, List.flatten_cons, List.length_append,
      List.length_append, List.drop_drop, Nat.add_assoc, List.append_assoc, List.append_assoc]

lemma write_of_le {record : ProvisionRecord} {buffer : Bytes} (h : record.size ≤ buffer.length) :
    record.write buffer =
      (.ok record.size, record.segments.flatten ++ buffer.drop record.size) := by
  rw [← length_flatten_segments] at h ⊢
  rw [write, writeSegments_of_le h, List.length_nil, Nat.zero_add, List.nil_append]

/-- The octets of a record. -/
lemma flatten_segments (record : ProvisionRecord) :
    record.segments.flatten = record.certificate ++
      (Bytes.ofText record.hubName ++ 0 :: Bytes.ofNat 2 record.hubPort.toNat) := by
  simp [segments]

/-! ## What is read -/

section Read

variable {record : ProvisionRecord}

/-- The port survives being written and read. -/
lemma port_eq (port : UInt16) :
    ∃ high low, Bytes.ofNat 2 port.toNat = [high, low] ∧
      UInt16.ofNat (Bytes.toNat [high, low]) = port := by
  have hlt : port.toNat < 256 ^ 2 := port.toNat_lt
  refine ⟨UInt8.ofNat (port.toNat / 256 % 256), UInt8.ofNat (port.toNat % 256), rfl, ?_⟩
  change UInt16.ofNat (Bytes.toNat (Bytes.ofNat 2 port.toNat)) = port
  rw [Bytes.toNat_ofNat, Nat.mod_eq_of_lt hlt, UInt16.ofNat_toNat]

lemma read?_of_notMem (h : '\x00' ∉ record.hubName.toList) :
    read? record.certificate.length record.segments.flatten = some (record, []) := by
  obtain ⟨high, low, hpair, hport⟩ := port_eq record.hubPort
  have hread := read?_append h record.certificate high low []
  rw [String.ofList_toList, hport] at hread
  rw [flatten_segments, hpair, hread]

/-- What follows the first zero character of the name: the rest of the name, and what follows the
name. -/
def behind (record : ProvisionRecord) (back : List Char) : Bytes :=
  Bytes.ofText (String.ofList back) ++ 0 :: Bytes.ofNat 2 record.hubPort.toNat

lemma length_behind (record : ProvisionRecord) (back : List Char) :
    (record.behind back).length = (Bytes.ofText (String.ofList back)).length + 3 := by
  rw [behind, List.length_append, List.length_cons, Bytes.length_ofNat]

/-- A name with a zero character is cut there, and what follows is taken for the port. -/
lemma read?_of_eq_append {front back : List Char}
    (h : record.hubName.toList = front ++ '\x00' :: back) (hfront : '\x00' ∉ front) :
    read? record.certificate.length record.segments.flatten =
      some (⟨record.certificate, String.ofList front,
        UInt16.ofNat (Bytes.toNat ((record.behind back).take 2))⟩,
        (record.behind back).drop 2) := by
  have hname : Bytes.ofText record.hubName =
      Bytes.ofText (String.ofList front) ++ 0 :: Bytes.ofText (String.ofList back) := by
    rw [← String.ofList_toList (s := record.hubName), h, Bytes.ofText_ofList, Bytes.ofText_ofList,
      Bytes.ofText_ofList, List.flatMap_append, List.flatMap_cons]
    rfl
  have hoctets : record.segments.flatten = record.certificate ++
      (Bytes.ofText (String.ofList front) ++ 0 :: record.behind back) := by
    rw [flatten_segments, hname, behind, List.append_assoc, List.cons_append]
  have hlength := record.length_behind back
  rw [hoctets]
  rcases hbehind : record.behind back with _ | ⟨high, _ | ⟨low, after⟩⟩
  · rw [hbehind, List.length_nil] at hlength
    omega
  · rw [hbehind, List.length_singleton] at hlength
    omega
  · exact read?_append hfront record.certificate high low after

/-- Exactly the names without a zero character read back with nothing left over. -/
lemma read?_segments_iff :
    read? record.certificate.length record.segments.flatten = some (record, []) ↔
      '\x00' ∉ record.hubName.toList := by
  refine ⟨fun hread hmem => ?_, read?_of_notMem⟩
  obtain ⟨front, back, h, hfront⟩ := List.eq_append_cons_of_mem hmem
  rw [read?_of_eq_append h hfront] at hread
  have hleft := congrArg List.length (Prod.mk.inj (Option.some.inj hread)).2
  rw [List.length_drop, length_behind, List.length_nil] at hleft
  omega

end Read

end ProvisionRecord

namespace CaExchange

open ProvisionRecord (read?)

/-- **The record of a response reads back unless its hub has a zero character in the name.**
Whatever response is applied, and in every buffer that is large enough, the record is written at the
front and nothing behind it changes.  Reading the octets that were written as the layout says gives
the record of the response with nothing left over exactly if the name of the hub has no zero
character.  If it has one, what is read is a record of the same certificate whose hub has the name
up to that character, and for a port the two octets that follow it; and something is left over. -/
theorem record_reads_back {octets : Bytes} {p p' : HandOver × KeyTable}
    (happly : (apply octets).Returns p () p') :
    ∃ response, CaResponse.parse octets = .ok response ∧
      let record := response.record
      ∀ buffer, record.size ≤ buffer.length →
        let got := HandOver.get p'.1 buffer
        let written := got.2.take record.size
        got.1 = .ok record.size ∧ got.2.drop record.size = buffer.drop record.size ∧
        (read? record.certificate.length written = some (record, []) ↔
          '\x00' ∉ record.hubName.toList) ∧
        ∀ front back, record.hubName.toList = front ++ '\x00' :: back → '\x00' ∉ front →
          read? record.certificate.length written =
              some (⟨record.certificate, String.ofList front,
                UInt16.ofNat (Bytes.toNat ((record.behind back).take 2))⟩,
                (record.behind back).drop 2) ∧
            (record.behind back).drop 2 ≠ [] := by
  obtain ⟨response, hparse, rfl⟩ := returns_apply.1 happly
  refine ⟨response, hparse, fun buffer hsize => ?_⟩
  have hget : HandOver.get (some response.record) buffer = (.ok response.record.size,
      response.record.segments.flatten ++ buffer.drop response.record.size) :=
    ProvisionRecord.write_of_le hsize
  have hlength := response.record.length_flatten_segments
  have hwritten : (response.record.segments.flatten ++ buffer.drop response.record.size).take
      response.record.size = response.record.segments.flatten := List.take_left' hlength
  simp only [hget, hwritten, List.drop_left' hlength]
  refine ⟨trivial, trivial, ProvisionRecord.read?_segments_iff, fun front back h hfront => ?_⟩
  refine ⟨ProvisionRecord.read?_of_eq_append h hfront, List.ne_nil_of_length_pos ?_⟩
  rw [List.length_drop, ProvisionRecord.length_behind]
  omega

/-- A response with a certificate of two octets, a hub whose name has three, and the port 1883. -/
def hubResponse (name : Bytes) : Bytes :=
  [0xA4, 0x01, 0x00, 0x02, 0x42, 0xAA, 0xBB, 0x03, 0x63] ++ name ++ [0x04, 0x19, 0x07, 0x5B]

/-- The record of a hub with a plain name reads back from a buffer with room to spare. -/
theorem record_reads_back_plain :
    let record : ProvisionRecord := ⟨[0xAA, 0xBB], "hub", 1883⟩
    let got := HandOver.get (some record) (List.replicate 10 0xEE)
    CaResponse.parse (hubResponse [0x68, 0x75, 0x62]) = .ok ⟨0, record⟩ ∧
      '\x00' ∉ record.hubName.toList ∧ got.1 = .ok 8 ∧
      read? 2 (got.2.take 8) = some (record, []) := by
  intro record got
  have hparse : CaResponse.parse (hubResponse [0x68, 0x75, 0x62]) = .ok ⟨0, record⟩ := by
    decide +kernel
  have hname : '\x00' ∉ record.hubName.toList := by decide
  obtain ⟨response, hresponse, hread⟩ :=
    record_reads_back (returns_apply_of_parse (p := (none, KeyTable.empty)) hparse)
  obtain rfl : (⟨0, record⟩ : CaResponse) = response := Except.ok.inj (hparse.symm.trans hresponse)
  obtain ⟨hsize, -, hback, -⟩ := hread (List.replicate 10 0xEE) (by decide)
  exact ⟨hparse, hname, hsize, hback.2 hname⟩

/-- **A hub can be taken for another one.**  The name of this hub has a zero character.  Its record
is stored and written without a failure, and is read as the record of a hub whose name ends there,
with a port that is made of the rest of the name. -/
theorem name_cut_at_zero :
    let record : ProvisionRecord := ⟨[0xAA, 0xBB], "a\x00b", 1883⟩
    let written : Bytes := [0xAA, 0xBB, 0x61, 0x00, 0x62, 0x00, 0x07, 0x5B]
    (apply (hubResponse [0x61, 0x00, 0x62])).Returns (none, KeyTable.empty) ()
        (some record, KeyTable.empty) ∧
      HandOver.get (some record) (List.replicate 8 0) = (.ok 8, written) ∧
      read? 2 written = some (⟨[0xAA, 0xBB], "a", 0x6200⟩, [0x07, 0x5B]) ∧
      ¬ ∀ (octets : Bytes) (p p' : HandOver × KeyTable) (record : ProvisionRecord)
        (buffer : Bytes), (apply octets).Returns p () p' → p'.1 = some record →
          record.size ≤ buffer.length →
            read? record.certificate.length ((HandOver.get p'.1 buffer).2.take record.size) =
              some (record, []) := by
  intro record written
  have hparse : CaResponse.parse (hubResponse [0x61, 0x00, 0x62]) = .ok ⟨0, record⟩ := by
    decide +kernel
  have happly : (apply (hubResponse [0x61, 0x00, 0x62])).Returns (none, KeyTable.empty) ()
      (some record, KeyTable.empty) := returns_apply_of_parse hparse
  have hget : HandOver.get (some record) (List.replicate 8 0) = (.ok 8, written) := by decide
  have hread : read? 2 written = some (⟨[0xAA, 0xBB], "a", 0x6200⟩, [0x07, 0x5B]) := by
    decide +kernel
  refine ⟨happly, hget, hread, fun hclaim => ?_⟩
  have hback := hclaim _ _ _ record (List.replicate 8 0) happly rfl (by decide)
  have htake : written.take record.size = written := rfl
  simp only [hget, htake] at hback
  rw [show record.certificate.length = 2 from rfl, hread] at hback
  exact absurd hback (by decide)

end CaExchange

end DeviceIdentity

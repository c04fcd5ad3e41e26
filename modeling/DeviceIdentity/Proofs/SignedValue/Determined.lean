import DeviceIdentity.Proofs.Partition.Signatures
import DeviceIdentity.Proofs.SignedValue.RoundTrip

/-!
# The signed octets determine what is signed

A header and a payload are put one behind the other, and whoever chooses them might move octets from
one to the other.  The head in front of each says how long it is, in one of five sizes, and what is
written reads back from the front of any octets.  So the place where the payload begins is never in
doubt, and neither is the value that a payload carries.

* `sigStructure_append_inj`, `sigStructure_inj` — what is signed for one header and payload is not
  signed for another, and is not the front of that either.
* `toBeSigned_payload_inj` — different values are signed by way of different octets.
* **`signed_octets_determine`** — header, payload and value can be told from the octets.
-/

namespace DeviceIdentity

namespace SignedValue

open CborItem (Fits)

/-- The item that is spelled to be signed. -/
lemma fits_sigStructure {header payload : Bytes} (hheader : header.length < 2 ^ 64)
    (hpayload : payload.length < 2 ^ 64) :
    Fits CborItem.maxDepth
      (.array [.text "Signature1", .bytes header, .bytes [], .bytes payload]) := by
  have hcontext : (Bytes.ofText "Signature1").length < 2 ^ 64 := by decide
  show Fits (255 + 1) _
  simpa [Fits] using ⟨hcontext, hheader, hpayload⟩

/-- Whatever follows, the octets say where the header and the payload end. -/
lemma sigStructure_append_inj {p m p' m' rest rest' : Bytes} (hp : p.length < 2 ^ 64)
    (hm : m.length < 2 ^ 64) (hp' : p'.length < 2 ^ 64) (hm' : m'.length < 2 ^ 64)
    (h : sigStructure p m ++ rest = sigStructure p' m' ++ rest') :
    p = p' ∧ m = m' ∧ rest = rest' := by
  obtain ⟨hitem, hrest⟩ :=
    CborItem.encode_append_inj (fits_sigStructure hp hm) (fits_sigStructure hp' hm') h
  simp only [CborItem.array.injEq, List.cons.injEq, CborItem.bytes.injEq, and_true,
    true_and] at hitem
  exact ⟨hitem.1, hitem.2, hrest⟩

/-- The octets say which header and which payload they are signed for. -/
lemma sigStructure_inj {p m p' m' : Bytes} (hp : p.length < 2 ^ 64) (hm : m.length < 2 ^ 64)
    (hp' : p'.length < 2 ^ 64) (hm' : m'.length < 2 ^ 64) :
    sigStructure p m = sigStructure p' m' ↔ p = p' ∧ m = m' := by
  constructor
  · intro h
    obtain ⟨hheader, hpayload, -⟩ :=
      sigStructure_append_inj hp hm hp' hm' (congrArg (· ++ ([] : Bytes)) h)
    exact ⟨hheader, hpayload⟩
  · rintro ⟨rfl, rfl⟩
    rfl

/-- Equal payloads carry the same bits. -/
lemma payload_inj {v w : Single} : payload v = payload w ↔ v.bits = w.bits := by
  constructor
  · intro h
    have hvalue := payloadValue?_payload v
    rw [h, payloadValue?_payload] at hvalue
    rw [Option.some.inj hvalue]
  · intro hbits
    cases v
    cases w
    cases hbits
    rfl

/-- The octets that are signed for a value are signed for no other value. -/
lemma toBeSigned_payload_inj {v w : Single} :
    toBeSigned (payload v) = toBeSigned (payload w) ↔ v.bits = w.bits := by
  have hheader : protectedHeader.length < 2 ^ 64 := by decide
  rw [toBeSigned, toBeSigned,
    sigStructure_inj hheader (length_payload_lt v) hheader (length_payload_lt w), payload_inj]
  exact and_iff_right rfl

/-- **The signed octets determine what is signed.**  Two headers and two payloads, of any lengths
that a head can state, are signed by way of the same octets only if they are the same, and two
payloads are equal only if they carry the same bits.  So what the partition signs for a value are
octets that are signed for no other value. -/
theorem signed_octets_determine :
    (∀ p m p' m' : Bytes, p.length < 2 ^ 64 → m.length < 2 ^ 64 → p'.length < 2 ^ 64 →
      m'.length < 2 ^ 64 → (sigStructure p m = sigStructure p' m' ↔ p = p' ∧ m = m')) ∧
    (∀ v w : Single, payload v = payload w ↔ v.bits = w.bits) ∧
    (∀ (s s' : Partition) (id : KeyId) (v : Single) (encoded : Bytes),
      (Partition.encodeValue id v .signed).Returns s encoded s' →
        ∃ signature, s.Signs id (toBeSigned (payload v)) signature ∧
          encoded = message (payload v) signature ∧
          ∀ w : Single, toBeSigned (payload w) = toBeSigned (payload v) ↔ w.bits = v.bits) := by
  refine ⟨fun p m p' m' => sigStructure_inj, fun v w => payload_inj, ?_⟩
  intro s s' id v encoded hreturns
  obtain ⟨⟨signature, hsigns, hencoded⟩, -⟩ := Partition.returns_encodeValue_signed_iff.1 hreturns
  exact ⟨signature, hsigns, hencoded, fun w => toBeSigned_payload_inj⟩

/-- Three hundred octets may stand in the header or in the payload, which makes as many octets to
sign but not the same ones.  A partition that signs a number signs other octets than it would for
zero. -/
theorem signed_octets_determine_moved :
    let long : Bytes := List.replicate 300 0x58
    let s := Partition.signingPartition
    (sigStructure long []).length = (sigStructure [] long).length ∧
      sigStructure long [] ≠ sigStructure [] long ∧
      payload ⟨0⟩ ≠ payload ⟨0x80000000⟩ ∧
      ∃ signature, s.Signs KeyId.coseSign (toBeSigned (payload Device.oddNaN)) signature ∧
        toBeSigned (payload ⟨0⟩) ≠ toBeSigned (payload Device.oddNaN) := by
  intro long s
  obtain ⟨hparts, hpayload, hpartition⟩ := signed_octets_determine
  obtain ⟨made, hmade⟩ := Option.isSome_iff_exists.1 Device.onesKey_signs_oddNaN
  have hmakes : s.Signs KeyId.coseSign (toBeSigned (payload Device.oddNaN)) made :=
    ⟨rfl, ⟨Device.onesKey, KeySlot.coseSign.usage⟩, rfl, rfl, hmade⟩
  obtain ⟨signature, hsigns, -, honly⟩ := hpartition s s KeyId.coseSign Device.oddNaN _
    (Partition.returns_encodeValue_signed_iff.2 ⟨⟨made, hmakes, rfl⟩, rfl⟩)
  have hlong : long.length < 2 ^ 64 := by
    rw [List.length_replicate]
    decide
  refine ⟨by decide +kernel, ?_, ?_, signature, hsigns, ?_⟩
  · rw [Ne, hparts long [] [] long hlong (by decide) (by decide) hlong]
    rintro ⟨h, -⟩
    exact List.cons_ne_nil _ _ h
  · rw [Ne, hpayload]
    decide
  · rw [Ne, honly]
    decide

end SignedValue

end DeviceIdentity

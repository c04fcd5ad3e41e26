import DeviceIdentity.Proofs.Cbor.RoundTrip
import DeviceIdentity.Proofs.P256.Signature
import DeviceIdentity.Proofs.SignedValue.Verification

/-!
# Signed values read back

The message that is made around a payload and a signature has the shape that verification asks for,
with the same payload and signature, and the octets that verification computes the signature over
are the octets that were signed.  So what is signed with a key verifies under its public key.

* `spells_encode` — what is written for an item spells this item and nothing more.
* `isMessage_message` — a message that is made has the shape of one.
* `payloadValue?_payload` — the payload of a value carries the value, bit for bit.
* **`verify_message`** — a value that was signed is what verification gives.
-/

namespace DeviceIdentity

namespace SignedValue

open CborItem (Fits)

/-- An item that fits is spelled by what is written for it. -/
lemma spells_encode {item : CborItem} (h : Fits CborItem.maxDepth item) :
    Spells item.encode item := by
  have hread := CborItem.read?_encode h []
  rwa [List.append_nil] at hread

lemma isHeader_protectedHeader : IsHeader protectedHeader := by
  have hfits : Fits (255 + 1) (.map [(.unsigned 1, .negative 6)]) := by simp [Fits]
  exact ⟨[(.unsigned 1, .negative 6)], spells_encode hfits, List.mem_singleton.2 rfl⟩

/-- A message that is made has the shape of one, with the parts it was made of. -/
lemma isMessage_message {payload signature : Bytes} (hpayload : payload.length < 2 ^ 64)
    (hsignature : signature.length = 64) :
    IsMessage (message payload signature) protectedHeader payload signature := by
  have hheader : protectedHeader.length < 2 ^ 64 := by decide
  have hlength : signature.length < 2 ^ 64 := by omega
  have hfits : Fits (254 + 2) (.tagged 18 (.array [.bytes protectedHeader, .map [],
      .bytes payload, .bytes signature])) := by
    simpa [Fits] using ⟨hheader, hpayload, hlength⟩
  exact ⟨⟨[], spells_encode hfits⟩, isHeader_protectedHeader, hsignature⟩

lemma length_toOctets (value : Single) : value.toOctets.length = 4 :=
  Bytes.length_ofNatLE 4 value.bits.toNat

lemma length_payload (value : Single) : (payload value).length = 11 := by
  have hlabel : (CborItem.ofInt valueClaim).encode.length = 5 := by decide
  simp [payload, CborItem.encode, CborItem.encodeEntries, length_toOctets, hlabel,
    CborItem.head]

lemma length_payload_lt (value : Single) : (payload value).length < 2 ^ 64 := by
  rw [length_payload]
  decide

/-- A message around the payload of a value has 85 octets, whatever the value. -/
lemma length_message {value : Single} {signature : Bytes} (h : signature.length = 64) :
    (message (payload value) signature).length = 85 := by
  have hheader : protectedHeader.length = 3 := by decide
  simp [message, CborItem.encode, CborItem.encodeAll, CborItem.encodeEntries, length_payload, h,
    hheader, CborItem.head, sign1Tag]

lemma payloadValue?_payload (value : Single) : payloadValue? (payload value) = some value := by
  have hfits : Fits (255 + 1)
      (.map [(CborItem.ofInt valueClaim, .bytes value.toOctets)]) := by
    simp [Fits, length_toOctets, CborItem.ofInt, valueClaim]
  have hread := readExactly?_eq_some_iff.2 (spells_encode hfits)
  have hlabel : (CborItem.ofInt valueClaim).isInt valueClaim = true :=
    (CborItem.isInt_iff (by decide) (by decide)).2 rfl
  unfold payloadValue?
  rw [payload, hread]
  simp only [Option.bind_eq_bind, Option.bind_some, List.find?_cons, hlabel,
    Single.ofOctets?_toOctets]

/-- **A value that was signed verifies**, and verification gives the value with all its bits. -/
theorem verify_message {key : Ecdsa.PrivateKey} {value : Single} {signature : Bytes}
    (h : Ecdsa.sign key (toBeSigned (payload value)) = some signature) :
    verify (message (payload value) signature) key.point.encode = .ok value := by
  obtain ⟨hlength, hpair⟩ := Ecdsa.verify_sign h
  have hshape := isMessage_message (length_payload_lt value) hlength
  have hauthentic : Authentic key.point protectedHeader (payload value) signature := hpair
  have hopened : opened (payload value) = .ok value := by
    rw [opened, payloadValue?_payload]
  have hverdict := Verdict.verified key.decode?_encode_point hshape hauthentic
  rw [hopened] at hverdict
  exact (verdict_verify _ _).unique hverdict

end SignedValue

end DeviceIdentity

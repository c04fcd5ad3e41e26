import DeviceIdentity.Proofs.CertRequest.Soundness
import DeviceIdentity.Proofs.Device.SignedValues
import DeviceIdentity.Proofs.Partition.Run

/-!
# What the partition signs

One key may sign both requests and values, so a signature given for the one must not serve for the
other.  It cannot: a request body is a DER sequence, and what is signed for a value is a CBOR array,
which begins with another octet.

* `Signs` — a signature made within reach, with a stored key that may sign.
* `returns_sign_iff`, `returns_encodeValue_signed_iff` — the two calls that give out signatures.
* `ne_sigStructure_of_checkSequence` — no DER sequence is what a signature over a value covers.
* **`signs_what_it_should`** — every signature of a run is one or the other, and not both.
-/

namespace DeviceIdentity

/-! ## Two kinds of messages -/

lemma DerHeader.head?_of_checkSequence {bs : Bytes} {n : Nat} (h : checkSequence bs = .ok n) :
    bs.head? = some Der.sequenceTag := by
  obtain ⟨field, content, -, -, rfl⟩ := checkSequence_eq_ok_iff.1 h
  rfl

lemma SignedValue.head?_sigStructure (header payload : Bytes) :
    (sigStructure header payload).head? = some 0x84 := by
  simp [sigStructure, CborItem.encode, CborItem.head]

/-- **A DER sequence is never what a signature over a value covers.** -/
lemma SignedValue.ne_sigStructure_of_checkSequence {message : Bytes} {n : Nat}
    (h : DerHeader.checkSequence message = .ok n) (header payload : Bytes) :
    message ≠ sigStructure header payload := by
  rintro rfl
  have hsequence := DerHeader.head?_of_checkSequence h
  rw [head?_sigStructure] at hsequence
  exact absurd hsequence (by decide)

namespace Partition

open SignedValue (ne_sigStructure_of_checkSequence sigStructure protectedHeader)

variable {s s' : Partition} {id : KeyId} {message signature : Bytes}

/-! ## The calls that sign -/

/-- Within reach, a key stored under `id` that may sign makes `signature` over `message`. -/
structure Signs (s : Partition) (id : KeyId) (message signature : Bytes) : Prop where
  online : s.online = true
  stored : ∃ stored, s.key? id = some stored ∧
    stored.usage.contains KeyUsage.signHash = true ∧
    Ecdsa.sign stored.privateKey message = some signature

/-- The signature over a request body. -/
lemma returns_sign_iff :
    (sign id message).Returns s signature s' ↔
      s.Signs id message signature ∧ (∃ n, DerHeader.checkSequence message = .ok n) ∧ s' = s := by
  rw [returns_sign, returns_signAny]
  constructor
  · rintro ⟨honline, hsequence, rfl, hstored⟩
    exact ⟨⟨honline, hstored⟩, hsequence, rfl⟩
  · rintro ⟨⟨honline, hstored⟩, hsequence, rfl⟩
    exact ⟨honline, hsequence, rfl, hstored⟩

/-- The signature in a signed value. -/
lemma returns_encodeValue_signed_iff {value : Single} {encoded : Bytes} :
    (encodeValue id value .signed).Returns s encoded s' ↔
      (∃ signature,
        s.Signs id (sigStructure protectedHeader (SignedValue.payload value)) signature ∧
          encoded = SignedValue.message (SignedValue.payload value) signature) ∧ s' = s := by
  rw [returns_encodeValue_signed]
  constructor
  · rintro ⟨honline, signature, hany, rfl⟩
    obtain ⟨rfl, hstored⟩ := returns_signAny.1 hany
    exact ⟨⟨signature, ⟨honline, hstored⟩, rfl⟩, rfl⟩
  · rintro ⟨⟨signature, ⟨honline, hstored⟩, rfl⟩, rfl⟩
    exact ⟨honline, signature, returns_signAny.2 ⟨rfl, hstored⟩, rfl⟩

/-- What a signature over a value covers is refused as a request body. -/
lemma fails_sign_sigStructure (s : Partition) (id : KeyId) (header payload : Bytes) :
    ∃ e, (sign id (sigStructure header payload)).Fails s e s := by
  rcases (sign id (sigStructure header payload)).returns_or_fails s with ⟨_, h⟩ | ⟨e, h⟩
  · -- a signature would mean that the octets are a DER sequence
    obtain ⟨-, ⟨n, hsequence⟩, -⟩ := returns_sign_iff.1 h
    exact absurd rfl (ne_sigStructure_of_checkSequence hsequence header payload)
  · refine ⟨e, ?_⟩
    rwa [(keeps_sign id _).allOrNothing h] at h

/-! ## The main result -/

/-- **The partition signs what it should.**  Each signature that is given out in a run is made
within reach, by a key that is stored under the identifier asked for and may sign.  Asked for a
request body, it covers this body, which is a DER sequence and so never what verification of a
signed value would compute.  Asked for a signed value, it covers the protected header and the
payload of this value, which no partition would sign as a request body.  For no octets are both a
DER sequence and what a signature over some header and payload covers. -/
theorem signs_what_it_should :
    (∀ (s : Partition) (operations : List Operation), ∀ e ∈ events s operations, ∀ id,
      (∀ message signature, e.operation = .call (.sign id message) →
        e.outcome.result = .ok (.octets signature) →
          e.before.Signs id message signature ∧
          (∃ n, DerHeader.checkSequence message = .ok n) ∧
          ∀ c parts, SignedValue.Parts.parse? c = some parts →
            message ≠ sigStructure parts.header parts.payload) ∧
      (∀ value encoded, e.operation = .call (.encodeValue id value .signed) →
        e.outcome.result = .ok (.octets encoded) →
          ∃ signature,
            encoded = SignedValue.message (SignedValue.payload value) signature ∧
            e.before.Signs id (sigStructure protectedHeader (SignedValue.payload value)) signature ∧
            ∀ (other : Partition) (otherId : KeyId), ∃ failure,
              (sign otherId (sigStructure protectedHeader (SignedValue.payload value))).Fails
                other failure other)) ∧
    (∀ message n header payload, DerHeader.checkSequence message = .ok n →
      message ≠ sigStructure header payload) := by
  refine ⟨fun s operations e _ id => ⟨?_, ?_⟩, ?_⟩
  · intro message signature hoperation hresult
    rw [Event.outcome, hoperation] at hresult
    obtain ⟨made, hreturns, hanswer⟩ := returns_wrapped.1 (Action.returns_of_result hresult)
    obtain rfl := Answer.octets.inj hanswer
    obtain ⟨hsigns, ⟨n, hsequence⟩, -⟩ := returns_sign_iff.1 hreturns
    exact ⟨hsigns, ⟨n, hsequence⟩, fun _ _ _ => ne_sigStructure_of_checkSequence hsequence _ _⟩
  · intro value encoded hoperation hresult
    rw [Event.outcome, hoperation] at hresult
    obtain ⟨made, hreturns, hanswer⟩ := returns_wrapped.1 (Action.returns_of_result hresult)
    obtain rfl := Answer.octets.inj hanswer
    obtain ⟨⟨signature, hsigns, hencoded⟩, -⟩ := returns_encodeValue_signed_iff.1 hreturns
    exact ⟨signature, hencoded, hsigns, fun other otherId =>
      fails_sign_sigStructure other otherId _ _⟩
  · intro message n header payload hsequence
    exact ne_sigStructure_of_checkSequence hsequence header payload

/-- A partition that holds a key for TLS clients and one for signing values. -/
def signingPartition : Partition where
  hardwareKey := Device.ones
  keys := (KeyId.coseSign, ⟨Device.onesKey, KeySlot.coseSign.usage⟩) ::
    CertRequest.unitPartition.keys

/-- The body of some request is signed with its key for TLS clients. -/
lemma signs_body_signingPartition :
    ∃ body signature, (sign KeyId.clientTls body).Returns signingPartition signature
      signingPartition := by
  obtain ⟨-, request, raw, reached, -, -, hexport, hsign, -⟩ := CertRequest.request_of_generateInto
    (Action.returns_of_result CertRequest.result_generateInto_unitPartition)
  obtain ⟨-, rfl, -⟩ := returns_exportKey.1 hexport
  obtain ⟨⟨honline, hstored⟩, hsequence, -⟩ := returns_sign_iff.1 hsign
  exact ⟨request.body, raw, returns_sign_iff.2 ⟨⟨honline, hstored⟩, hsequence, rfl⟩⟩

/-- That partition signs a request body and a number, and these signatures cover different octets,
of which those for the number are refused as a request body. -/
theorem signs_what_it_should_signingPartition :
    let toBeSigned := sigStructure protectedHeader (SignedValue.payload Device.oddNaN)
    ∃ body n, DerHeader.checkSequence body = .ok n ∧
      (∃ signature, signingPartition.Signs KeyId.clientTls body signature) ∧
      (∃ signature, signingPartition.Signs KeyId.coseSign toBeSigned signature) ∧
      (∃ failure, (sign KeyId.clientTls toBeSigned).Fails signingPartition failure
        signingPartition) ∧
      body ≠ toBeSigned := by
  intro toBeSigned
  obtain ⟨body, signature, hbody⟩ := signs_body_signingPartition
  obtain ⟨made, hmade⟩ := Option.isSome_iff_exists.1 Device.onesKey_signs_oddNaN
  have hmakes : signingPartition.Signs KeyId.coseSign toBeSigned made :=
    ⟨rfl, ⟨Device.onesKey, KeySlot.coseSign.usage⟩, rfl, rfl, hmade⟩
  have hvalue := returns_encodeValue_signed_iff.2 ⟨⟨made, hmakes, rfl⟩, rfl⟩
  let first : Event := ⟨signingPartition, .call (.sign KeyId.clientTls body)⟩
  let second : Event :=
    ⟨signingPartition, .call (.encodeValue KeyId.coseSign Device.oddNaN .signed)⟩
  have hfirst : first.outcome.result = .ok (.octets signature) :=
    (returns_wrapped.2 ⟨signature, hbody, rfl⟩).1
  have hsecond : second.outcome.result = .ok _ := (returns_wrapped.2 ⟨_, hvalue, rfl⟩).1
  obtain ⟨hsigns, ⟨n, hsequence⟩, -⟩ :=
    (signs_what_it_should.1 signingPartition [first.operation] first (List.mem_singleton.2 rfl)
      KeyId.clientTls).1 _ _ rfl hfirst
  obtain ⟨signature', -, hsigns', hrefused⟩ :=
    (signs_what_it_should.1 signingPartition [second.operation] second (List.mem_singleton.2 rfl)
      KeyId.coseSign).2 _ _ rfl hsecond
  exact ⟨body, n, hsequence, ⟨signature, hsigns⟩, ⟨signature', hsigns'⟩,
    hrefused signingPartition KeyId.clientTls, signs_what_it_should.2 body n _ _ hsequence⟩

end Partition

end DeviceIdentity

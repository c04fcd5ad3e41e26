import DeviceIdentity.Proofs.Device.SignedValues
import DeviceIdentity.Proofs.SecureService.Inquiries
import DeviceIdentity.Proofs.SecureService.Sanitised
import DeviceIdentity.Proofs.SignedValue.Reports

/-!
# Encoding leaves no partial output

Encoding has the service make the octets of a value and copies them to the front of a buffer, all of
them or none.  A device does this in a buffer of a fixed size.  Over the emulated partition the form
alone tells how many octets there are, so the size suffices for every value or for none.

* `fails_encodeInto_of_slot`, `fails_encodeInto_of_fails`, `fails_encodeInto_of_lt` — the three ways
  in which encoding fails, each of which leaves the buffer alone.
* `service_encodeInto` — the service is asked once, if the identifier has a slot;
  `result_encodeInto_iff` — then room is all that matters.
* `buffer_of_returns_encodeInto`, `buffer_of_fails_encodeInto` — what becomes of the buffer.
* `run_encodeInto_noting`, `inquiries_encodeInto` — to note what the service is asked makes no other
  difference, and it is asked once.
* `Device.state_encodeValue`, `Device.result_encodeValue_of_le`, `Device.fails_encodeValue_of_lt` —
  a device stays as it is, and gives what the service gives if there is room.
* **`encoding_leaves_no_partial_output`** — all of this together.
-/

namespace DeviceIdentity

open DeviceIdentity.Action (Fails Returns)

/-! ## Encoding into a buffer -/

namespace SignedValue

variable {σ : Type} {service : SecureService σ} {id : KeyId} {value : Single}
  {format : EncodeFormat} {p : σ × Bytes} {s' : σ} {encoded : Bytes} {e : Failure}

lemma fails_encodeInto_of_slot (hslot : KeyTable.slot id = .error e) :
    (encodeInto service id value format).Fails p e p :=
  Action.fails_bind.2 (.inl ⟨hslot, rfl⟩)

section Slot

variable {found : KeySlot} (hslot : KeyTable.slot id = .ok found)
include hslot

lemma fails_encodeInto_of_fails (h : (service.encodeValue id value format).Fails p.1 e s') :
    (encodeInto service id value format).Fails p e.ofSigning (s', p.2) := by
  refine Action.fails_bind.2 (.inr ⟨found, p, Action.returns_ofExcept.2 ⟨hslot, rfl⟩, ?_⟩)
  refine Action.fails_bind.2 (.inl (Action.fails_within.2 ⟨s', ⟨?_, h.2⟩, rfl⟩))
  rw [Action.run_mapFailure, h.1]
  rfl

lemma fails_encodeInto_of_lt (h : (service.encodeValue id value format).Returns p.1 encoded s')
    (hsize : p.2.length < encoded.length) :
    (encodeInto service id value format).Fails p .bufferTooSmall (s', p.2) := by
  refine Action.fails_bind.2 (.inr ⟨found, p, Action.returns_ofExcept.2 ⟨hslot, rfl⟩, ?_⟩)
  refine Action.fails_bind.2 (.inr ⟨encoded, (s', p.2), ?_, ?_⟩)
  · exact Action.returns_within.2 ⟨s', Action.returns_mapFailure.2 h, rfl⟩
  refine Action.fails_bind.2 (.inr ⟨_, _, Action.returns_get.2 ⟨rfl, rfl⟩, ?_⟩)
  dsimp only
  rw [if_pos hsize]
  exact Action.fails_bind.2
    (.inr ⟨(), _, Action.returns_log.2 rfl, Action.fails_fail.2 ⟨rfl, rfl⟩⟩)

/-- The service is asked once, and everything else follows from its answer. -/
lemma ends_encodeInto (service : SecureService σ) (value : Single) (format : EncodeFormat)
    (p : σ × Bytes) :
    let reached := ((service.encodeValue id value format).run p.1).state
    (∃ e, (service.encodeValue id value format).Fails p.1 e reached ∧
      (encodeInto service id value format).Fails p e.ofSigning (reached, p.2)) ∨
    ∃ encoded, (service.encodeValue id value format).Returns p.1 encoded reached ∧
      ((p.2.length < encoded.length ∧
        (encodeInto service id value format).Fails p .bufferTooSmall (reached, p.2)) ∨
      encoded.length ≤ p.2.length ∧
        (encodeInto service id value format).Returns p encoded.length
          (reached, encoded ++ p.2.drop encoded.length)) := by
  intro reached
  rcases Action.returns_or_fails (service.encodeValue id value format) p.1 with
    ⟨encoded, h⟩ | ⟨e, h⟩
  · refine .inr ⟨encoded, h, ?_⟩
    by_cases hsize : p.2.length < encoded.length
    · exact .inl ⟨hsize, fails_encodeInto_of_lt hslot h hsize⟩
    · have hroom := Nat.le_of_not_lt hsize
      exact .inr ⟨hroom, returns_encodeInto.2
        ⟨⟨found, hslot⟩, encoded, reached, h, hroom, rfl, rfl⟩⟩
  · exact .inl ⟨e, h, fails_encodeInto_of_fails hslot h⟩

lemma service_encodeInto (p : σ × Bytes) :
    ((encodeInto service id value format).run p).state.1 =
      ((service.encodeValue id value format).run p.1).state := by
  obtain ⟨e, -, h⟩ | ⟨encoded, -, ⟨-, h⟩ | ⟨-, h⟩⟩ := ends_encodeInto hslot service value format p
  all_goals rw [h.2]

/-- Once there are octets, room is all that matters. -/
lemma result_encodeInto_iff
    (h : ((service.encodeValue id value format).run p.1).result = .ok encoded) :
    let result := ((encodeInto service id value format).run p).result
    (result = .error .bufferTooSmall ↔ p.2.length < encoded.length) ∧
      (result = .ok encoded.length ↔ encoded.length ≤ p.2.length) := by
  intro result
  obtain ⟨e, hother, -⟩ | ⟨other, hother, hends⟩ := ends_encodeInto hslot service value format p
  · exact (Action.not_fails_of_returns ⟨h, rfl⟩ hother).elim
  obtain ⟨rfl, -⟩ := hother.unique ⟨h, rfl⟩
  obtain ⟨hsize, hresult, -⟩ | ⟨hsize, hresult, -⟩ := hends
  · simp only [result, hresult, reduceCtorEq, false_iff, true_iff, Nat.not_le]
    exact ⟨hsize, hsize⟩
  · simp only [result, hresult, reduceCtorEq, false_iff, true_iff, Nat.not_lt]
    exact ⟨hsize, hsize⟩

end Slot

/-- What is returned is the number of octets at the front of the buffer, which are those of the
service. -/
lemma buffer_of_returns_encodeInto {n : Nat} {p' : σ × Bytes}
    (h : (encodeInto service id value format).Returns p n p') :
    n ≤ p.2.length ∧
      ((service.encodeValue id value format).run p.1).result = .ok (p'.2.take n) ∧
      p'.2.drop n = p.2.drop n := by
  obtain ⟨-, encoded, s', hencode, hsize, rfl, rfl⟩ := returns_encodeInto.1 h
  rw [List.take_left, List.drop_left]
  exact ⟨hsize, hencode.1, rfl⟩

/-- The identifiers with a slot are those of the slots. -/
lemma slot_eq_error (h : ∀ found : KeySlot, found.keyId ≠ id) :
    KeyTable.slot id = .error .unknownKeyId := by
  cases hslot : KeyTable.slot id with
  | error e => rw [KeyTable.eq_of_slot_eq_error hslot]
  | ok found => exact (h found (KeyTable.keyId_of_slot hslot)).elim

/-- Whatever goes wrong, the buffer is as it was. -/
lemma buffer_of_fails_encodeInto {p' : σ × Bytes}
    (hfails : (encodeInto service id value format).Fails p e p') : p'.2 = p.2 := by
  cases hslot : KeyTable.slot id with
  | error cause => rw [(hfails.unique (fails_encodeInto_of_slot hslot)).2]
  | ok found =>
    obtain ⟨e, -, h⟩ | ⟨encoded, -, ⟨-, h⟩ | ⟨-, h⟩⟩ :=
      ends_encodeInto hslot service value format p
    · rw [(hfails.unique h).2]
    · rw [(hfails.unique h).2]
    · exact (Action.not_fails_of_returns h hfails).elim

section Noting

variable (service : SecureService σ) (value : Single) (format : EncodeFormat)

/-- An identifier without a slot is refused before the service is asked. -/
lemma fails_encodeInto_of_not_slot (h : ∀ found : KeySlot, found.keyId ≠ id) (p : σ × Bytes) :
    (encodeInto service id value format).Fails p .unknownKeyId p :=
  fails_encodeInto_of_slot (slot_eq_error h)

/-- To note the questions makes no other difference. -/
lemma run_encodeInto_noting (id : KeyId) (s : σ) (buffer : Bytes) :
    let outcome := (encodeInto service id value format).run (s, buffer)
    let noted := (encodeInto service.noting id value format).run ((s, []), buffer)
    noted.result = outcome.result ∧ noted.state.1.1 = outcome.state.1 ∧
      noted.state.2 = outcome.state.2 := by
  intro outcome noted
  obtain ⟨hresult, ⟨hservice, hbuffer⟩, -⟩ := relates_encodeInto service.alike_noting id value
    format (s, buffer) ((s, []), buffer) ⟨rfl, rfl⟩
  exact ⟨(hresult.eq fun hshared => hshared.1).symm, hservice, hbuffer.symm⟩

/-- For a slot, the service is asked for the value and for nothing else. -/
lemma inquiries_encodeInto (s : σ) (buffer : Bytes) (slot : KeySlot) :
    ((encodeInto service.noting slot.keyId value format).run ((s, []), buffer)).state.1.2 =
      [⟨.encodeValue slot.keyId value format,
        ((service.encodeValue slot.keyId value format).run s).result⟩] :=
  congrArg Prod.snd (service_encodeInto (KeyTable.slot_keyId slot) ((s, []), buffer))

end Noting

end SignedValue

/-! ## A device -/

namespace Device

variable {σ : Type} {value : Single} {format : EncodeFormat}

/-- A device fails as encoding in its own buffer does. -/
lemma fails_encodeValue {device : Device σ} {d : DeviceState σ} {e : Failure} {p : σ × Bytes}
    (h : (SignedValue.encodeInto device.service KeyId.coseSign value format).Fails
      (d.service, List.replicate device.settings.coseBufferSize.toNat 0) e p) :
    (device.encodeValue value format).Fails d e { d with service := p.1 } := by
  obtain ⟨hresult, rfl⟩ := h
  refine Action.fails_bind.2 (.inr ⟨_, _, ⟨rfl, rfl⟩, ?_⟩)
  exact Action.fails_bind.2 (.inl ⟨hresult, rfl⟩)

/-- Over the partition, a device fails as the partition does, or has the octets of the form in
hand, and gives them if there is room.  It changes nothing either way. -/
lemma ends_encodeValue (settings : Settings) (d : DeviceState Partition) (value : Single)
    (format : EncodeFormat) :
    (∃ e, (Partition.service.encodeValue KeyId.coseSign value format).Fails d.service e d.service ∧
      ((emulated settings).encodeValue value format).Fails d e.ofSigning d) ∨
    ∃ encoded, (Partition.service.encodeValue KeyId.coseSign value format).Returns d.service
        encoded d.service ∧
      (SignedValue.encodedLength format ≤ settings.coseBufferSize.toNat →
        ((emulated settings).encodeValue value format).Returns d encoded d) ∧
      (settings.coseBufferSize.toNat < SignedValue.encodedLength format →
        ((emulated settings).encodeValue value format).Fails d .bufferTooSmall d) := by
  have hslot := KeyTable.slot_keyId .coseSign
  have hsame : d.service =
      ((Partition.service.encodeValue KeyId.coseSign value format).run d.service).state :=
    Partition.keeps_encodeValue KeyId.coseSign value format d.service
  rcases Action.returns_or_fails (Partition.service.encodeValue KeyId.coseSign value format)
    d.service with ⟨encoded, h⟩ | ⟨e, h⟩
  · rw [← hsame] at h
    have hlength := SignedValue.length_encodeValue h
    refine .inr ⟨encoded, h, fun hsize => ?_, fun hsize => ?_⟩
    · exact returns_encodeValue h (hlength.trans_le hsize)
    · refine fails_encodeValue (SignedValue.fails_encodeInto_of_lt hslot h ?_)
      rw [List.length_replicate, hlength]
      exact hsize
  · rw [← hsame] at h
    exact .inl ⟨e, h, fails_encodeValue (SignedValue.fails_encodeInto_of_fails hslot h)⟩

lemma state_encodeValue (settings : Settings) (d : DeviceState Partition) (value : Single)
    (format : EncodeFormat) : (((emulated settings).encodeValue value format).run d).state = d := by
  obtain ⟨e, -, h⟩ | ⟨encoded, -, hroom, hsmall⟩ := ends_encodeValue settings d value format
  · exact h.2
  · rcases Nat.lt_or_ge settings.coseBufferSize.toNat (SignedValue.encodedLength format) with
      hsize | hsize
    · exact (hsmall hsize).2
    · exact (hroom hsize).2

section Size

variable {settings : Settings} {d : DeviceState Partition}

/-- With room for the octets of the form, a device gives what the partition gives. -/
lemma result_encodeValue_of_le
    (hsize : SignedValue.encodedLength format ≤ settings.coseBufferSize.toNat) (value : Single) :
    (((emulated settings).encodeValue value format).run d).result =
      ((Partition.service.encodeValue KeyId.coseSign value format).run d.service).result.mapError
        Failure.ofSigning := by
  obtain ⟨e, hanswer, h⟩ | ⟨encoded, hanswer, hroom, -⟩ := ends_encodeValue settings d value format
  · rw [hanswer.1, h.1]
    rfl
  · rw [hanswer.1, (hroom hsize).1]
    rfl

/-- Without room for them it gives nothing, and no other cause than that if the partition has
octets. -/
lemma fails_encodeValue_of_lt
    (hsize : settings.coseBufferSize.toNat < SignedValue.encodedLength format) (value : Single) :
    ∃ e, (((emulated settings).encodeValue value format).run d).result = .error e ∧
      ∀ encoded, ((Partition.service.encodeValue KeyId.coseSign value format).run
        d.service).result = .ok encoded → e = .bufferTooSmall := by
  obtain ⟨e, hanswer, h⟩ | ⟨encoded, -, -, hsmall⟩ := ends_encodeValue settings d value format
  · refine ⟨e.ofSigning, h.1, fun encoded hencoded => ?_⟩
    exact (Action.not_fails_of_returns ⟨hencoded, rfl⟩ hanswer).elim
  · exact ⟨_, (hsmall hsize).1, fun _ _ => rfl⟩

end Size

end Device

/-! ## The main result -/

/-- **Encoding leaves no partial output.**  Whatever the service answers, an identifier without a
slot is refused before the service is asked; with a slot, it is asked once.  Octets that do not fit
are refused, octets that fit stand at the front of the buffer with the rest of it as before, and
every failure leaves the whole buffer as before.  Over the emulated partition the number of octets
depends on the form alone, so with a buffer of that size a device gives what the partition gives for
every value, octets and failures, and with a smaller one it fails for every value. -/
theorem encoding_leaves_no_partial_output :
    (∀ {σ : Type} (service : SecureService σ) (id : KeyId) (value : Single)
      (format : EncodeFormat) (s : σ) (buffer : Bytes),
      let answer := (service.encodeValue id value format).run s
      let outcome := (SignedValue.encodeInto service id value format).run (s, buffer)
      let noted := (SignedValue.encodeInto service.noting id value format).run ((s, []), buffer)
      let asked := noted.state.1.2
      (noted.result = outcome.result ∧ noted.state.1.1 = outcome.state.1 ∧
        noted.state.2 = outcome.state.2) ∧
      ((∀ slot : KeySlot, slot.keyId ≠ id) →
        outcome.result = .error .unknownKeyId ∧ outcome.state = (s, buffer) ∧ asked = []) ∧
      ((∃ slot : KeySlot, slot.keyId = id) →
        asked = [⟨.encodeValue id value format, answer.result⟩] ∧
        outcome.state.1 = answer.state ∧
        (∀ e, answer.result = .error e → outcome.result = .error e.ofSigning) ∧
        ∀ encoded, answer.result = .ok encoded →
          (outcome.result = .error .bufferTooSmall ↔ buffer.length < encoded.length) ∧
          (outcome.result = .ok encoded.length ↔ encoded.length ≤ buffer.length)) ∧
      (∀ n, outcome.result = .ok n → n ≤ buffer.length ∧
        answer.result = .ok (outcome.state.2.take n) ∧
          outcome.state.2.drop n = buffer.drop n) ∧
      ∀ e, outcome.result = .error e → outcome.state.2 = buffer) ∧
    ∀ (settings : Settings) (d : DeviceState Partition) (format : EncodeFormat),
      let length := SignedValue.encodedLength format
      let size := settings.coseBufferSize.toNat
      let answer := fun id value => (Partition.service.encodeValue id value format).run d.service
      let outcome := fun value => ((Device.emulated settings).encodeValue value format).run d
      length = (if format = .signed then 85 else 11) ∧
      (∀ id value encoded, (answer id value).result = .ok encoded → encoded.length = length) ∧
      (∀ value, (outcome value).state = d) ∧
      (length ≤ size → ∀ value,
        (outcome value).result =
          (answer KeyId.coseSign value).result.mapError Failure.ofSigning) ∧
      (size < length → ∀ value, ∃ e, (outcome value).result = .error e ∧
        ∀ encoded, (answer KeyId.coseSign value).result = .ok encoded → e = .bufferTooSmall) := by
  refine ⟨fun service id value format s buffer => ?_, fun settings d format => ?_⟩
  · intro answer outcome noted asked
    refine ⟨SignedValue.run_encodeInto_noting service value format id s buffer, fun hid => ?_, ?_,
      fun n h => SignedValue.buffer_of_returns_encodeInto (Action.returns_of_result h),
      fun e h => SignedValue.buffer_of_fails_encodeInto ⟨h, rfl⟩⟩
    · have hplain := SignedValue.fails_encodeInto_of_not_slot service value format hid (s, buffer)
      have hnoting := SignedValue.fails_encodeInto_of_not_slot service.noting value format hid
        ((s, []), buffer)
      exact ⟨hplain.1, hplain.2, congrArg (fun p => p.1.2) hnoting.2⟩
    · rintro ⟨slot, rfl⟩
      have hslot := KeyTable.slot_keyId slot
      refine ⟨SignedValue.inquiries_encodeInto service value format s buffer slot,
        SignedValue.service_encodeInto hslot (s, buffer), fun e h => ?_, fun encoded h => ?_⟩
      · exact (SignedValue.fails_encodeInto_of_fails (p := (s, buffer)) hslot ⟨h, rfl⟩).1
      · exact SignedValue.result_encodeInto_iff hslot h
  · intro length size answer outcome
    refine ⟨by cases format <;> rfl, fun id value encoded h => ?_, fun value => ?_,
      fun hsize value => ?_, fun hsize value => ?_⟩
    · exact SignedValue.length_encodeValue (Action.returns_of_result h)
    · exact Device.state_encodeValue settings d value format
    · exact Device.result_encodeValue_of_le hsize value
    · exact Device.fails_encodeValue_of_lt hsize value

/-- A device that holds the signing key, and nothing else. -/
def signingDevice : DeviceState Partition where
  service := {
    hardwareKey := Device.ones
    keys := [(KeyId.coseSign, ⟨Device.onesKey, KeySlot.coseSign.usage⟩)] }

/-- A number that is not one is signed in a buffer of 85 octets, where the buffer is filled, and not
in one of 84, which keeps its octets.  An identifier after those of the slots is refused. -/
theorem encoding_leaves_no_partial_output_oddNaN :
    let encode := fun id => SignedValue.encodeInto Partition.service id Device.oddNaN .signed
    let s := signingDevice.service
    let buffer : Bytes := List.replicate 84 7
    (∃ encoded, encoded.length = 85 ∧
      ((Device.emulated { coseBufferSize := 85 }).encodeValue Device.oddNaN .signed).Returns
        signingDevice encoded signingDevice) ∧
    ((Device.emulated { coseBufferSize := 84 }).encodeValue Device.oddNaN .signed).Fails
      signingDevice .bufferTooSmall signingDevice ∧
    (encode KeyId.coseSign).Fails (s, buffer) .bufferTooSmall (s, buffer) ∧
    ((encode KeyId.coseSign).run (s, buffer ++ [1, 2])).state.2.drop 85 = [2] ∧
    (encode ⟨0x5004⟩).Fails (s, buffer) .unknownKeyId (s, buffer) := by
  intro encode s buffer
  obtain ⟨signature, hsign⟩ := Option.isSome_iff_exists.1 Device.onesKey_signs_oddNaN
  have hanswer := Device.returns_encodeValue_of_held (s := s) rfl rfl hsign
  obtain ⟨hinto, hdevice⟩ := encoding_leaves_no_partial_output
  obtain ⟨-, hlength, hstate, hroom, -⟩ :=
    hdevice { coseBufferSize := 85 } signingDevice .signed
  obtain ⟨-, -, hstate', -, hsmall⟩ := hdevice { coseBufferSize := 84 } signingDevice .signed
  obtain ⟨-, -, hknown, -, hkept⟩ :=
    hinto Partition.service KeyId.coseSign Device.oddNaN .signed s buffer
  obtain ⟨-, -, hknown', hwritten, -⟩ :=
    hinto Partition.service KeyId.coseSign Device.oddNaN .signed s (buffer ++ [1, 2])
  obtain ⟨-, hunknown, -, -, -⟩ :=
    hinto Partition.service ⟨0x5004⟩ Device.oddNaN .signed s buffer
  have h85 := hlength _ _ _ hanswer.1
  refine ⟨⟨_, h85, ?_, hstate _⟩, ?_, ?_, ?_, ?_⟩
  · rw [hroom (by decide) Device.oddNaN, hanswer.1]
    rfl
  · obtain ⟨e, he, hcause⟩ := hsmall (by decide) Device.oddNaN
    rw [hcause _ hanswer.1] at he
    exact ⟨he, hstate' _⟩
  · obtain ⟨-, hservice, -, hfits⟩ := hknown ⟨.coseSign, rfl⟩
    have hresult := (hfits _ hanswer.1).1.2 (by rw [h85]; decide)
    exact ⟨hresult, Prod.ext (hservice.trans hanswer.2) (hkept _ hresult)⟩
  · obtain ⟨-, -, -, hfits⟩ := hknown' ⟨.coseSign, rfl⟩
    have hresult := (hfits _ hanswer.1).2.2 (by rw [h85]; decide)
    rw [h85] at hresult
    exact (hwritten 85 hresult).2.2
  · obtain ⟨hresult, hsame, -⟩ := hunknown fun slot => by cases slot <;> decide
    exact ⟨hresult, hsame⟩

end DeviceIdentity

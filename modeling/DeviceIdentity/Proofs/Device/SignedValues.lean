import DeviceIdentity.Proofs.Device.History
import DeviceIdentity.Proofs.SignedValue.RoundTrip

/-!
# Values signed by one device and checked by another

Two devices of the same hardware key and label suffix hold the same signing key once they hold one,
whatever was done with them before.  So a value that one of them signs verifies on the other.

* `returns_encodeValue`, `returns_verify` — the two ends.
* **`verify_of_signed`** — the value is signed in each of three ways, with the same octets, and
  these verify on the other device and give the value back with all its bits.
-/

namespace DeviceIdentity

namespace Device

open DeviceIdentity.Action (Returns)

variable {settings settings' : Settings} {d d' : DeviceState Partition} {value : Single}

lemma returns_onBuffer {α : Type} {step : Action (Partition × Bytes) α} {a : α} {s : Partition}
    {buffer written : Bytes} (h : step.Returns (d.service, buffer) a (s, written)) :
    (DeviceState.onBuffer buffer step).Returns d (.ok a, written) { d with service := s } := by
  obtain ⟨hresult, hstate⟩ := h
  have hrun : (DeviceState.onBuffer buffer step).run d =
      ⟨.ok ((step.run (d.service, buffer)).result, (step.run (d.service, buffer)).state.2),
        { d with service := (step.run (d.service, buffer)).state.1 },
        (step.run (d.service, buffer)).log⟩ := rfl
  rw [Returns, hrun, hresult, hstate]
  exact ⟨rfl, rfl⟩

lemma returns_encodeInto {format : EncodeFormat} {encoded buffer : Bytes} {s s' : Partition}
    (hencode : (Partition.service.encodeValue KeyId.coseSign value format).Returns s encoded s')
    (hsize : encoded.length ≤ buffer.length) :
    (SignedValue.encodeInto Partition.service KeyId.coseSign value format).Returns (s, buffer)
      encoded.length (s', encoded ++ buffer.drop encoded.length) :=
  SignedValue.returns_encodeInto.2
    ⟨⟨.coseSign, KeyTable.slot_keyId .coseSign⟩, encoded, s', hencode, hsize, rfl, rfl⟩

/-- A device encodes a value in its own buffer and gives the octets that the partition answers. -/
lemma returns_encodeValue {format : EncodeFormat} {encoded : Bytes} {s : Partition}
    (hencode : (Partition.service.encodeValue KeyId.coseSign value format).Returns d.service
      encoded s)
    (hsize : encoded.length ≤ settings.coseBufferSize.toNat) :
    ((emulated settings).encodeValue value format).Returns d encoded { d with service := s } := by
  have hroom : encoded.length ≤
      (List.replicate settings.coseBufferSize.toNat (0 : UInt8)).length := by
    rw [List.length_replicate]
    exact hsize
  refine Action.returns_bind.2 ⟨_, _, returns_onBuffer (returns_encodeInto hencode hroom), ?_⟩
  refine Action.returns_bind.2 ⟨_, _, Action.returns_ofExcept.2 ⟨rfl, rfl⟩, ?_⟩
  exact Action.returns_pure.2 ⟨List.take_left, rfl⟩

lemma returns_verify {id : KeyId} {message publicKey : Bytes}
    (hkey : ((emulated settings).publicKey id).Returns d publicKey d')
    (hverify : SignedValue.verify message publicKey = .ok value) :
    ((emulated settings).verify id message).Returns d value d' :=
  Action.returns_bind.2 ⟨publicKey, d', hkey, Action.returns_ofExcept.2 ⟨hverify, rfl⟩⟩

/-- A partition that holds the signing key and can be reached signs a value, if the key does. -/
lemma returns_encodeValue_of_held {s : Partition} {key : Ecdsa.PrivateKey} {signature : Bytes}
    (honline : s.online = true)
    (hheld : s.key? KeySlot.coseSign.keyId = some ⟨key, KeySlot.coseSign.usage⟩)
    (hsign : Ecdsa.sign key (SignedValue.toBeSigned (SignedValue.payload value)) = some signature) :
    (Partition.service.encodeValue KeyId.coseSign value .signed).Returns s
      (SignedValue.message (SignedValue.payload value) signature) s := by
  have hmay : KeySlot.coseSign.usage.contains KeyUsage.signHash = true :=
    KeyUsage.contains_union_left _ _
  refine Partition.returns_encodeValue_signed.2 ⟨honline, signature, ?_, rfl⟩
  exact Partition.returns_signAny.2 ⟨rfl, _, hheld, hmay, hsign⟩

/-- A number that is not one, with a payload of its own. -/
def oddNaN : Single := ⟨0x7FC00001⟩

set_option maxRecDepth 100000 in
/-- The nonce of this signature is found at once, and the signature is in range. -/
lemma onesKey_signs_oddNaN :
    (Ecdsa.sign onesKey (SignedValue.toBeSigned (SignedValue.payload oddNaN))).isSome = true := by
  rw [Ecdsa.sign_eq]
  simp only [Ecdsa.signAtOnce.eq_1, Ecdsa.Drbg.next, Ecdsa.Drbg.seed, Ecdsa.Drbg.mix, Ecdsa.pair?,
    Ecdsa.messageNumber, Hmac.mac, Sha256.hash_eq]
  decide +kernel

/-! ## The main result -/

/-- **What one device signs, the other verifies.**  Take two devices of the same hardware key and
label suffix after any histories, both within reach and both with a signing key.  If the key derived
for signing signs the octets of a value at all, then the first device encodes the value as one
message, which is the same from the device itself, from encoding into a buffer, and from a model
that answers with the value; and the second device verifies it and gives the value back. -/
theorem verify_of_signed (settings settings' : Settings) (partition partition' : Partition)
    (operations operations' : List Operation) (value : Single)
    (hkey : partition.hardwareKey = partition'.hardwareKey)
    (hsuffix : effectiveSuffix settings partition = effectiveSuffix settings' partition')
    (honline : (history settings partition operations).service.online = true)
    (honline' : (history settings' partition' operations').service.online = true)
    (hstatus : (history settings partition operations).table.status .coseSign ≠ .notProvisioned)
    (hstatus' : (history settings' partition' operations').table.status .coseSign ≠ .notProvisioned)
    (hsigns : ∀ key : Ecdsa.PrivateKey, Ecdsa.scalarOctets key.scalar =
        slotScalar partition.hardwareKey (effectiveSuffix settings partition) .coseSign →
      ∃ signature, Ecdsa.sign key (SignedValue.toBeSigned (SignedValue.payload value)) =
        some signature) :
    let d := history settings partition operations
    let d' := history settings' partition' operations'
    ∃ c, c.length = 85 ∧
      (c.length ≤ settings.coseBufferSize.toNat →
        ((emulated settings).encodeValue value .signed).Returns d c d) ∧
      (∀ buffer, c.length ≤ buffer.length →
        (SignedValue.encodeInto Partition.service KeyId.coseSign value .signed).Returns
          (d.service, buffer) c.length (d.service, c ++ buffer.drop c.length)) ∧
      (∀ (model : SineModel) x buffer, SineModel.accepts x = true → model.output x = value →
        c.length ≤ buffer.length →
          (model.inferInto Partition.service x .signed).Returns
            (d.service, buffer) (value, c.length) (d.service, c ++ buffer.drop c.length)) ∧
      ((emulated settings').verify KeyId.coseSign c).Returns d' value d' := by
  intro d d'
  obtain ⟨key, hscalar, hheld⟩ := key?_history (decide_eq_true hstatus)
  obtain ⟨key', hscalar', hheld'⟩ := key?_history (decide_eq_true hstatus')
  obtain ⟨signature, hsign⟩ := hsigns key hscalar
  obtain rfl : key = key' := by
    rw [hkey, hsuffix, ← hscalar'] at hscalar
    exact Ecdsa.PrivateKey.eq_of_scalarOctets hscalar
  have hencode := returns_encodeValue_of_held honline hheld hsign
  refine ⟨SignedValue.message (SignedValue.payload value) signature, ?_, ?_, ?_, ?_, ?_⟩
  · exact SignedValue.length_message (Ecdsa.verify_sign hsign).1
  · exact returns_encodeValue hencode
  · exact fun buffer => returns_encodeInto hencode
  · intro model x buffer haccept houtput hsize
    exact SineModel.returns_inferInto.2 ⟨haccept, houtput.symm, returns_encodeInto hencode hsize⟩
  · refine returns_verify ?_ (SignedValue.verify_message hsign)
    refine returns_publicKey.2 ⟨rfl, honline', ?_, _, hheld', rfl⟩
    exact ⟨.coseSign, KeyTable.slot_keyId .coseSign, decide_eq_true hstatus'⟩

/-- A device with the suffix in its partition signs the number, and a device of the same hardware
key with the suffix in its settings verifies it. -/
theorem verify_of_signed_oddNaN :
    let d := history {} { hardwareKey := ones, labelSuffix := "-lab" } [.init]
    let d' := history { labelSuffix := "-lab" } { hardwareKey := ones } [.init]
    ∃ c, ((emulated {}).encodeValue oddNaN .signed).Returns d c d ∧
      ((emulated { labelSuffix := "-lab" }).verify KeyId.coseSign c).Returns d' oddNaN d' := by
  intro d d'
  set partition : Partition := { hardwareKey := ones, labelSuffix := "-lab" }
  set partition' : Partition := { hardwareKey := ones }
  set settings' : Settings := { labelSuffix := "-lab" }
  have hhold : ((emulated {}).start partition).service.CanHold .coseSign onesKey :=
    canHold_ones rfl rfl rfl rfl
  have hhold' : ((emulated settings').start partition').service.CanHold .coseSign onesKey :=
    canHold_ones rfl rfl rfl rfl
  obtain ⟨hkey, hafter⟩ := hasKey_history_init hhold
  obtain ⟨hkey', hafter'⟩ := hasKey_history_init hhold'
  have hsigns : ∀ key : Ecdsa.PrivateKey, Ecdsa.scalarOctets key.scalar =
      slotScalar partition.hardwareKey (effectiveSuffix {} partition) .coseSign →
      ∃ signature, Ecdsa.sign key (SignedValue.toBeSigned (SignedValue.payload oddNaN)) =
        some signature := by
    intro key hscalar
    have hones : slotScalar partition.hardwareKey (effectiveSuffix {} partition) .coseSign =
        Ecdsa.scalarOctets onesKey.scalar := slotScalar_ones
    rw [Ecdsa.PrivateKey.eq_of_scalarOctets (hscalar.trans hones)]
    exact Option.isSome_iff_exists.1 onesKey_signs_oddNaN
  obtain ⟨c, hlength, hencode, -, -, hverify⟩ :=
    verify_of_signed {} settings' partition partition' [.init] [.init] oddNaN rfl rfl
      hafter.online hafter'.online (of_decide_eq_true hkey) (of_decide_eq_true hkey') hsigns
  refine ⟨c, hencode ?_, hverify⟩
  rw [hlength]
  decide

end Device

end DeviceIdentity

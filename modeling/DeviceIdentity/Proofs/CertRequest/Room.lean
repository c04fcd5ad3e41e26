import DeviceIdentity.Proofs.CertRequest.Size
import DeviceIdentity.Proofs.CertRequest.Soundness
import DeviceIdentity.Proofs.Device.History
import DeviceIdentity.Proofs.Key.Registry

/-!
# How much room a request needs

A request is made in a buffer that the caller brings.  The body is written at the end of the buffer,
taken out to be signed, and then written over by the complete request, which is longer and so leaves
no trace of it.  So all that counts of the buffer is whether the request fits.

* `Tail.prepend?_reset` — writing anew over something shorter.
* `Material` — what slot, key table and service give for a request; `Material.run_generateInto` —
  the request is then made exactly if it fits.
* `deviceName` — the subject of a request; `SignsBody` — the signature that ECDSA is relied on to
  make.
* `exists_material` — a slot with a key that may sign has all that a request is made of.
* **`request_needs_its_length`** — on the emulated partition, the length of a request is all the
  room that it needs, and is at most 374 octets.
-/

namespace DeviceIdentity

namespace Tail

/-- Over something shorter, octets are written anew as if it had never been there. -/
lemma prepend?_reset {buffer short long : Bytes} {t : Tail}
    (hshort : (ofBuffer buffer).prepend? short = some t) (hle : short.length ≤ long.length)
    (hroom : long.length ≤ buffer.length) :
    t.reset.prepend? long = some ⟨buffer.take (buffer.length - long.length), long⟩ := by
  have hfits : short.length ≤ buffer.length := hle.trans hroom
  obtain rfl : ⟨buffer.take (buffer.length - short.length), short ++ []⟩ = t :=
    Option.some.inj ((if_pos hfits).symm.trans hshort)
  have hsize : (buffer.take (buffer.length - short.length) ++ short).length = buffer.length := by
    rw [List.length_append, List.length_take]
    omega
  have hkept : (buffer.take (buffer.length - short.length) ++ short).take
      (buffer.length - long.length) = buffer.take (buffer.length - long.length) := by
    rw [List.take_append_of_le_length (by rw [List.length_take]; omega), List.take_take,
      Nat.min_eq_left (by omega)]
  simp only [reset, ofBuffer, Tail.buffer, prepend?, List.append_nil, hsize, if_pos hroom, hkept]

end Tail

namespace CertRequest

open DeviceIdentity.Action (Fails Returns)

/-! ## The stages -/

section Stages

variable {σ α : Type} {b : Build σ}

lemma call_of_returns {step : Action σ α} {a : α} {s : σ} (h : step.Returns b.service a s) :
    (Build.call step).Returns b a { b with service := s } :=
  Action.returns_within.2 ⟨s, h, rfl⟩

lemma write_of_returns {step : Der.Write α} {a : α} {t : Tail} (h : step.Returns b.tail a t) :
    (Build.write step).Returns b a { b with tail := t } :=
  Action.returns_within.2 ⟨t, Action.returns_mapFailure.2 h, rfl⟩

/-- That there is no room is told to the caller as it is. -/
lemma write_of_fails {step : Der.Write α} {t : Tail} (h : step.Fails b.tail .bufferTooSmall t) :
    (Build.write step).Fails b .bufferTooSmall { b with tail := t } := by
  refine Action.fails_within.2 ⟨t, ⟨?_, h.2⟩, rfl⟩
  rw [Action.run_mapFailure, h.1]
  rfl

end Stages

/-- A body that does not fit is not written. -/
lemma fails_writeBody {publicKey body : Bytes} {subject : SubjectName} {t : Tail}
    (hbody : body? publicKey subject = some body) (hshort : t.prepend? body = none) :
    ∃ u, (writeBody publicKey subject).Fails t .bufferTooSmall u := by
  obtain ⟨u, hfails⟩ := (encodes_bodyParts publicKey subject).fails (by rw [hbody]; rfl) hshort
  refine ⟨u, ?_⟩
  have hwritten : ∀ {t u : Tail} {e : Failure}, Der.written.Fails t e u ↔ False := by
    simp [Der.written, Action.fails_bind]
  simp only [writeBody, Action.fails_bind, Action.fails_pure, hwritten, and_false, exists_false,
    or_false] at hfails ⊢
  exact hfails

/-! ## Making a request -/

/-- All that a request is made of, as slot, key table and service give it while the service is in
the state `s`. -/
structure Material {σ : Type} (service : SecureService σ) (table : KeyTable)
    (organization uuid : String) (id : KeyId) (s : σ) where
  slot : KeySlot
  name : SubjectName
  publicKey : Bytes
  message : Bytes
  raw : Bytes
  request : Bytes
  slot_eq : KeyTable.slot id = .ok slot
  name_eq : SubjectName.forDevice organization uuid slot.label = .ok name
  exported : (table.publicKey service id).Returns s publicKey s
  message_eq : body? publicKey name = some message
  signed : (service.sign id message).Returns s raw s
  request_eq : signed? message raw = some request
  shorter : message.length ≤ request.length

namespace Material

variable {σ : Type} {service : SecureService σ} {table : KeyTable} {organization uuid : String}
  {id : KeyId} {s : σ} {b : Build σ} {buffer : Bytes} {t : Tail}

lemma returns_subject (m : Material service table organization uuid id s) :
    (subject organization uuid id).Returns b m.name
      { b with passed := .subjectBuilt :: b.passed } :=
  Action.returns_bind.2 ⟨m.slot, b, Action.returns_ofExcept.2 ⟨m.slot_eq, rfl⟩,
    Action.returns_bind.2 ⟨m.name, b, Action.returns_ofExcept.2 ⟨m.name_eq, rfl⟩,
      Action.returns_bind.2 ⟨(), b, Action.returns_log.2 rfl,
        Action.returns_bind.2 ⟨(), _, Action.returns_modify.2 rfl,
          Action.returns_pure.2 ⟨rfl, rfl⟩⟩⟩⟩⟩

lemma returns_publicKey (m : Material service table organization uuid id s) (hb : b.service = s) :
    (Build.call ((table.publicKey service id).mapFailure ofMissingKey)).Returns b m.publicKey
      b := by
  subst hb
  exact call_of_returns (Action.returns_mapFailure.2 m.exported)

/-- The body is written, if it fits. -/
lemma returns_body (m : Material service table organization uuid id s) (hb : b.service = s)
    (hempty : b.tail.written = []) (hroom : b.tail.prepend? m.message = some t) :
    (body service table id m.name).Returns b m.message
      { b with tail := t, passed := .bodyEncoded :: b.passed } := by
  have hwritten : (writeBody m.publicKey m.name).Returns b.tail m.message t :=
    returns_writeBody.2 ⟨m.message, m.message_eq, hroom, by rw [hempty, List.append_nil]⟩
  exact Action.returns_bind.2 ⟨m.publicKey, b, m.returns_publicKey hb,
    Action.returns_bind.2 ⟨m.message, _, write_of_returns hwritten,
      Action.returns_bind.2 ⟨(), _, Action.returns_modify.2 rfl,
        Action.returns_pure.2 ⟨rfl, rfl⟩⟩⟩⟩

lemma fails_body (m : Material service table organization uuid id s) (hb : b.service = s)
    (hshort : b.tail.prepend? m.message = none) :
    ∃ b', (body service table id m.name).Fails b .bufferTooSmall b' := by
  obtain ⟨u, hfails⟩ := fails_writeBody m.message_eq hshort
  exact ⟨_, Action.fails_bind.2 (.inr ⟨m.publicKey, b, m.returns_publicKey hb,
    Action.fails_bind.2 (.inl (write_of_fails hfails))⟩)⟩

lemma returns_signature (m : Material service table organization uuid id s) (hb : b.service = s) :
    (signature service id m.message).Returns b m.raw { b with passed := .signed :: b.passed } := by
  subst hb
  exact Action.returns_bind.2 ⟨m.raw, b, call_of_returns (Action.returns_mapFailure.2 m.signed),
    Action.returns_bind.2 ⟨(), _, Action.returns_modify.2 rfl, Action.returns_pure.2 ⟨rfl, rfl⟩⟩⟩

lemma returns_reset : (Build.write Der.reset).Returns b () { b with tail := b.tail.reset } :=
  write_of_returns (Action.returns_modify.2 rfl)

/-- The request is written over the whole buffer, if it fits. -/
lemma returns_assemble (m : Material service table organization uuid id s)
    (hroom : b.tail.reset.prepend? m.request = some t) :
    (assemble m.message m.raw).Returns b m.request.length
      { b with tail := t, passed := .assembled :: b.passed } := by
  have hwritten : (writeSigned m.message m.raw).Returns b.tail.reset m.request.length t :=
    (encodes_writeSigned m.message m.raw).returns_counted.2 ⟨m.request, m.request_eq, rfl, hroom⟩
  refine Action.returns_bind.2 ⟨(), _, returns_reset, ?_⟩
  refine Action.returns_bind.2 ⟨m.request.length, _, write_of_returns hwritten, ?_⟩
  exact Action.returns_bind.2 ⟨(), _, Action.returns_modify.2 rfl, Action.returns_pure.2 ⟨rfl, rfl⟩⟩

lemma fails_assemble (m : Material service table organization uuid id s)
    (hshort : b.tail.reset.prepend? m.request = none) :
    ∃ b', (assemble m.message m.raw).Fails b .bufferTooSmall b' := by
  obtain ⟨u, hfails⟩ := (encodes_writeSigned m.message m.raw).fails
    (by rw [m.request_eq]; rfl) hshort
  exact ⟨_, Action.fails_bind.2 (.inr ⟨(), _, returns_reset,
    Action.fails_bind.2 (.inl (write_of_fails hfails))⟩)⟩

/-- The stages are passed one after the other when the request fits. -/
lemma returns_build (m : Material service table organization uuid id s) (hb : b.service = s)
    (htail : b.tail = Tail.ofBuffer buffer) (hroom : m.request.length ≤ buffer.length) :
    ∃ b', (build service table organization uuid id).Returns b m.request.length b' ∧
      b'.service = s ∧
      b'.tail = ⟨buffer.take (buffer.length - m.request.length), m.request⟩ := by
  obtain ⟨t, ht⟩ : ∃ t, (Tail.ofBuffer buffer).prepend? m.message = some t :=
    ⟨_, if_pos (m.shorter.trans hroom)⟩
  have hover := Tail.prepend?_reset ht m.shorter hroom
  refine ⟨_, Action.returns_bind.2 ⟨m.name, _, m.returns_subject, Action.returns_bind.2
    ⟨m.message, _, m.returns_body (t := t) hb ?_ ?_, Action.returns_bind.2
      ⟨m.raw, _, m.returns_signature hb, m.returns_assemble hover⟩⟩⟩, hb, rfl⟩
  · rw [htail]
    rfl
  · rw [htail]
    exact ht

/-- Where the request does not fit, the body may fit or not. -/
lemma fails_build (m : Material service table organization uuid id s) (hb : b.service = s)
    (htail : b.tail = Tail.ofBuffer buffer) (hshort : buffer.length < m.request.length) :
    ∃ b', (build service table organization uuid id).Fails b .bufferTooSmall b' := by
  cases ht : (Tail.ofBuffer buffer).prepend? m.message with
  | none =>
    obtain ⟨b', hfails⟩ := m.fails_body (b := { b with passed := .subjectBuilt :: b.passed }) hb
      (by rw [htail]; exact ht)
    exact ⟨b', Action.fails_bind.2 (.inr ⟨m.name, _, m.returns_subject,
      Action.fails_bind.2 (.inl hfails)⟩)⟩
  | some t =>
    have hover : t.reset.prepend? m.request = none := by
      rw [Tail.prepend?_eq_none_iff, Tail.reset, Tail.ofBuffer, Tail.length_buffer_prepend? ht,
        Tail.buffer_ofBuffer]
      exact hshort
    obtain ⟨b', hfails⟩ := m.fails_assemble (b := { b with
      tail := t, passed := .signed :: .bodyEncoded :: .subjectBuilt :: b.passed }) hover
    refine ⟨b', Action.fails_bind.2 (.inr ⟨m.name, _, m.returns_subject, Action.fails_bind.2
      (.inr ⟨m.message, _, m.returns_body (t := t) hb ?_ ?_, Action.fails_bind.2
        (.inr ⟨m.raw, _, m.returns_signature hb, hfails⟩)⟩)⟩)⟩
    · rw [htail]
      rfl
    · rw [htail]
      exact ht

/-- **A request is made exactly if it fits.**  It then ends the buffer, and the octets before it are
as they were. -/
lemma run_generateInto (m : Material service table organization uuid id s) (b : Build σ)
    (buffer : Bytes) (hb : b.service = s) :
    let outcome := (generateInto service table organization id uuid buffer).run b
    outcome.result = (if m.request.length ≤ buffer.length then .ok m.request.length
      else .error .bufferTooSmall) ∧
    (m.request.length ≤ buffer.length →
      outcome.state.tail.buffer =
        buffer.take (buffer.length - m.request.length) ++ m.request) := by
  intro outcome
  set b₀ : Build σ := { b with tail := Tail.ofBuffer buffer, passed := .start :: b.passed }
  by_cases hroom : m.request.length ≤ buffer.length
  · obtain ⟨b', hbuild, -, htail⟩ := m.returns_build (b := b₀) hb rfl hroom
    have hmade : (generateInto service table organization id uuid buffer).Returns b
        m.request.length b' :=
      Action.returns_bind.2 ⟨(), b₀, Action.returns_modify.2 rfl, Action.returns_bind.2
        ⟨.ok m.request.length, b', Action.returns_attempt.2 hbuild,
          Action.returns_pure.2 ⟨rfl, rfl⟩⟩⟩
    rw [if_pos hroom]
    refine ⟨hmade.1, fun _ => ?_⟩
    rw [hmade.2, htail]
    rfl
  · obtain ⟨b', hbuild⟩ := m.fails_build (b := b₀) hb rfl (Nat.lt_of_not_le hroom)
    have hfails : ∃ b'', (generateInto service table organization id uuid buffer).Fails b
        .bufferTooSmall b'' :=
      ⟨_, Action.fails_bind.2 (.inr ⟨(), b₀, Action.returns_modify.2 rfl, Action.fails_bind.2
        (.inr ⟨.error .bufferTooSmall, b', Action.returns_attempt.2 hbuild, rfl, rfl⟩)⟩)⟩
    obtain ⟨b'', hfails⟩ := hfails
    rw [if_neg hroom]
    exact ⟨hfails.1, fun h => (hroom h).elim⟩

end Material

/-! ## On the emulated partition -/

/-- The subject of a device: its organization, its UUID, and the label of the slot. -/
def deviceName (organization uuid : String) (slot : KeySlot) : SubjectName :=
  ⟨[(.organization, organization), (.commonName, uuid), (.organizationalUnit, slot.label)]⟩

/-- The text may be the value of an attribute, and has neither of the two characters that separate
attributes and values. -/
def IsPlain (text : String) : Prop :=
  text ≠ "" ∧ text.utf8ByteSize ≤ SubjectName.maxValueLength ∧ ',' ∉ text.toList ∧ '=' ∉ text.toList

/-- The stored key makes a signature of the body of a request.  It fails to only if no nonce is
found or one of the two numbers is zero. -/
def SignsBody (s : Partition) (id : KeyId) (subject : SubjectName) : Prop :=
  ∀ {stored : StoredKey} {message : Bytes}, s.key? id = some stored →
    body? stored.privateKey.point.encode subject = some message →
      (Ecdsa.sign stored.privateKey message).isSome

lemma intended_deviceName {organization uuid : String} (horganization : IsPlain organization)
    (huuid : IsPlain uuid) (slot : KeySlot) :
    SubjectName.Intended organization uuid slot.label (deviceName organization uuid slot) := by
  have hlabel : IsPlain slot.label := by
    unfold IsPlain
    cases slot <;> decide
  refine ⟨?_, rfl⟩
  simp only [List.forall_mem_cons, List.not_mem_nil, false_implies, implies_true, and_true]
  exact ⟨horganization, huuid, hlabel⟩

/-- A signature has two halves that are not zero. -/
lemma isPair_of_sign {key : Ecdsa.PrivateKey} {message signature : Bytes}
    (h : Ecdsa.sign key message = some signature) :
    signature.length = Ecdsa.signatureLength ∧ Der.IsPair signature := by
  obtain ⟨hlength, pair, hparse, -⟩ := Ecdsa.verify_sign h
  have hnonzero {half : Bytes} {k : P256.Scalar} (hk : Ecdsa.scalar? half = some k) :
      ∃ b ∈ half, b ≠ 0 := by
    obtain ⟨hne, hval, -⟩ := Ecdsa.scalar?_eq_some hk
    by_contra hzero
    have hzero' : ∀ b ∈ half, b = 0 := by simpa using hzero
    rw [Bytes.toNat_eq_zero_iff.2 hzero'] at hval
    exact hne (Fin.ext hval)
  have hhalf : signature.length / 2 = 32 := by rw [hlength, Ecdsa.signatureLength]
  obtain ⟨r, hr, hparse⟩ := Option.bind_eq_some_iff.1 hparse
  obtain ⟨s, hs, -⟩ := Option.bind_eq_some_iff.1 hparse
  refine ⟨hlength, by rw [hlength, Ecdsa.signatureLength], ?_, ?_⟩
  · rw [Der.firstHalf, hhalf]
    exact hnonzero hr
  · rw [Der.secondHalf, hhalf]
    exact hnonzero hs

/-- A slot that has a key which may sign has all that a request is made of. -/
lemma exists_material {s : Partition} {table : KeyTable} {organization uuid : String}
    {slot : KeySlot} (hbacked : KeyTable.Backed (s, table)) (honline : s.online = true)
    (husage : slot.usage.contains KeyUsage.signHash = true) (hslot : table.hasKey slot = true)
    (horganization : IsPlain organization) (huuid : IsPlain uuid)
    (hsigns : SignsBody s slot.keyId (deviceName organization uuid slot)) :
    ∃ m : Material Partition.service table organization uuid slot.keyId s,
      m.request.length ≤ 374 := by
  have hintended := intended_deviceName horganization huuid slot
  obtain ⟨key, hkey⟩ := hbacked slot hslot
  obtain ⟨hhead, hraw⟩ := key.encode_point
  obtain ⟨message, hmessage, hmessageLength⟩ := exists_body? hraw (size_le_of_intended hintended)
  obtain ⟨raw, hsigned⟩ := Option.isSome_iff_exists.1 (hsigns hkey hmessage)
  obtain ⟨hrawLength, hpair⟩ := isPair_of_sign hsigned
  obtain ⟨request, hrequest, hlength, hshorter⟩ := exists_signed? hmessageLength hrawLength hpair
  exact ⟨{
    slot := slot
    name := deviceName organization uuid slot
    publicKey := key.point.encode
    message := message
    raw := raw
    request := request
    slot_eq := KeyTable.slot_keyId slot
    name_eq := (SubjectName.forDevice_eq_ok_iff_intended hintended.not_mem).2 hintended
    exported := KeyTable.returns_publicKey.2 ⟨⟨slot, KeyTable.slot_keyId slot, hslot⟩,
      Partition.returns_exportKey.2 ⟨honline, rfl, _, hkey, rfl⟩, hhead⟩
    message_eq := hmessage
    signed := Partition.returns_sign.2 ⟨honline, checkSequence_of_body? hmessage,
      Partition.returns_signAny.2 ⟨rfl, _, hkey, husage, hsigned⟩⟩
    request_eq := hrequest
    shorter := hshorter }, hlength⟩

/-- **A request needs its length, and no more.**  Take any partition and a table provisioned on it,
whatever else was done with both, as long as the partition can be reached now; a slot that has a key
and may sign; and an organization and a UUID that are plain.  Then there is one request of at most
374 octets such that in every buffer it is made if it fits, and otherwise refused because there is
no room.  If it fits it ends the buffer, and what was in front of it is as it was.  And every body
that is written passes the partition's check of what it signs. -/
theorem request_needs_its_length :
    (∀ (start : Partition) (events : List KeyTable.Event) (slot : KeySlot)
      (organization uuid : String),
      let s := (KeyTable.history start events).1
      let table := (KeyTable.history start events).2
      s.online = true → slot.usage.contains KeyUsage.signHash = true →
      table.status slot ≠ .notProvisioned → IsPlain organization → IsPlain uuid →
      SignsBody s slot.keyId (deviceName organization uuid slot) →
      ∃ request : Bytes, request.length ≤ 374 ∧
        ∀ (b : Build Partition) (buffer : Bytes), b.service = s →
          let outcome :=
            (generateInto Partition.service table organization slot.keyId uuid buffer).run b
          outcome.result = (if request.length ≤ buffer.length then .ok request.length
            else .error .bufferTooSmall) ∧
          (request.length ≤ buffer.length →
            outcome.state.tail.buffer =
              buffer.take (buffer.length - request.length) ++ request)) ∧
    (∀ (publicKey : Bytes) (subject : SubjectName) (t u : Tail) (message : Bytes),
      t.written = [] → (writeBody publicKey subject).Returns t message u →
        ∃ n, DerHeader.checkSequence message = .ok n) := by
  constructor
  · intro start events slot organization uuid s table honline husage hstatus horganization huuid
      hsigns
    obtain ⟨m, hlength⟩ := exists_material (KeyTable.backed_history start events) honline husage
      (decide_eq_true hstatus) horganization huuid hsigns
    exact ⟨m.request, hlength, m.run_generateInto⟩
  · intro publicKey subject t u message hempty hwritten
    obtain ⟨body, hbody, -, hmessage⟩ := returns_writeBody.1 hwritten
    rw [hempty, List.append_nil] at hmessage
    exact checkSequence_of_body? (hmessage ▸ hbody)

-- named, because in its place `rfl` makes the kernel compute the partition
lemma service_mk {σ : Type} (s : σ) : ({ service := s } : Build σ).service = s := rfl

set_option maxRecDepth 100000 in
lemma isSome_sign_onesKey :
    ((body? Device.onesKey.point.encode (deviceName "Acme" "device-1" .coseSign)).bind
      (Ecdsa.sign Device.onesKey)).isSome = true := by
  have hsign : Ecdsa.sign Device.onesKey =
      fun message => Ecdsa.signAtOnce Device.onesKey message := by
    rw [Ecdsa.sign_eq]
  rw [hsign]
  simp only [Ecdsa.signAtOnce.eq_1, Ecdsa.Drbg.next, Ecdsa.Drbg.seed, Ecdsa.Drbg.mix, Ecdsa.pair?,
    Ecdsa.messageNumber, Hmac.mac, Sha256.hash_eq]
  decide +kernel

/-- Wherever that key is stored for signing, it signs this body. -/
lemma signsBody_onesKey {s : Partition}
    (hkey : s.key? KeySlot.coseSign.keyId = some ⟨Device.onesKey, KeySlot.coseSign.usage⟩) :
    SignsBody s KeySlot.coseSign.keyId (deviceName "Acme" "device-1" .coseSign) := by
  intro stored message hstored hmessage
  obtain rfl : ⟨Device.onesKey, KeySlot.coseSign.usage⟩ = stored :=
    Option.some.inj (hkey.symm.trans hstored)
  have hsome := isSome_sign_onesKey
  rwa [hmessage, Option.bind_some] at hsome

lemma isPlain_acme : IsPlain "Acme" ∧ IsPlain "device-1" := by
  unfold IsPlain
  decide

/-- On the partition whose hardware key is all ones, there is one request for the slot for signing.
It ends every buffer of 374 octets, and in front of it the buffer is filled as it was. -/
theorem request_needs_its_length_ones :
    let p := KeyTable.history { hardwareKey := Device.ones, labelSuffix := "-lab" } [.provision]
    ∃ request : Bytes, request.length ≤ 374 ∧ ∀ fill : UInt8,
      let outcome := (generateInto Partition.service p.2 "Acme" KeySlot.coseSign.keyId "device-1"
        (List.replicate 374 fill)).run { service := p.1 }
      outcome.result = .ok request.length ∧
        outcome.state.tail.buffer = List.replicate (374 - request.length) fill ++ request := by
  have hhold : ({ hardwareKey := Device.ones, labelSuffix := "-lab" } : Partition).CanHold .coseSign
      Device.onesKey := Device.canHold_ones rfl rfl rfl rfl
  have hready := KeyTable.history_of_canHold hhold
  have hmade := request_needs_its_length.1 { hardwareKey := Device.ones, labelSuffix := "-lab" }
    [.provision] .coseSign "Acme" "device-1"
  -- nothing else counts of where the events lead, so it need not be computed
  generalize KeyTable.history _ _ = p at hready hmade ⊢
  obtain ⟨honline, hslot, hkey⟩ := hready
  obtain ⟨request, hlength, hmade⟩ := hmade honline (by decide) (of_decide_eq_true hslot)
    isPlain_acme.1 isPlain_acme.2 (signsBody_onesKey hkey)
  refine ⟨request, hlength, fun fill => ?_⟩
  have hsize : request.length ≤ (List.replicate 374 fill).length := by
    rwa [List.length_replicate]
  obtain ⟨hresult, hbuffer⟩ := hmade { service := p.1 } (List.replicate 374 fill) (service_mk p.1)
  rw [if_pos hsize] at hresult
  refine ⟨hresult, (hbuffer hsize).trans ?_⟩
  rw [List.length_replicate, List.take_replicate, Nat.min_eq_left (Nat.sub_le _ _)]

end CertRequest

end DeviceIdentity

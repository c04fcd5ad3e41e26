import DeviceIdentity.Proofs.CertRequest.Related

/-!
# Failures of the secure service are sanitised

A secure service may fail with any cause and put any text into it.  What the library hands on is a
cause of its own: a closed channel is passed on as such, a small buffer too where a buffer is
involved, and all else becomes the failure of the operation.

Both halves of this are one comparison.  Two services whose failures differ in concealed causes
alone are compared side by side, and every operation ends on both with one cause, which is among
those that the operation has.  The causes of a single service come out when it is compared with
itself.

* `relates_publicKey`, `relates_encodeInto`, `relates_encodeValue` — what operations make of
  services that are alike.
* `Device.Query` — what a caller asks of a device; `Query.relates_session` — devices over such
  services give the same answers.
* **`failures_sanitised`** — all of this together.
-/

namespace DeviceIdentity

open DeviceIdentity.Action (Ends FailsOnlyWith Relates Returns Shared)

/-! ## Devices -/

/-- Two pairs with related first components and the same second one. -/
def RelatedFst {σ τ β : Type} (R : σ → τ → Prop) (p : σ × β) (q : τ × β) : Prop :=
  R p.1 q.1 ∧ p.2 = q.2

/-- Two devices with related services, and the same table and record. -/
structure DeviceState.Related {σ τ : Type} (R : σ → τ → Prop) (d : DeviceState σ)
    (d' : DeviceState τ) : Prop where
  service : R d.service d'.service
  table : d.table = d'.table
  handOver : d.handOver = d'.handOver

section Operations

variable {σ τ : Type} {R : σ → τ → Prop} {seen : LogRecord → Bool} {service : SecureService σ}
  {other : SecureService τ}

/-! ## Encoding -/

lemma SignedValue.relates_encodeInto (h : service.Alike R seen other) (id : KeyId) (value : Single)
    (format : EncodeFormat) :
    (encodeInto service id value format).Relates (RelatedFst R) seen Eq
      (Shared Failure.encodeCauses) (encodeInto other id value format) := by
  refine Action.relates_bind_eq (Action.relates_ofExcept (KeyTable.ends_slot (by decide) id))
    fun _ => ?_
  refine Action.relates_bind_eq ?_ fun encoded => ?_
  · refine Action.relates_within ?_ (fun hpair => hpair.1) fun hpair hstate => ⟨hstate, hpair.2⟩
    refine Action.relates_mapFailure (h.encodeValue id value format) fun {e e'} hseen =>
      ⟨hseen.ofSigning, ?_⟩
    exact List.mem_cons_of_mem _ e.ofSigning_mem
  · refine Action.relates_bind Action.relates_get fun {p q} hpair => ?_
    simp only [hpair.2]
    split_ifs
    · refine Action.relates_bind_eq (Action.relates_log _ _ _) fun _ => ?_
      exact Action.relates_fail ⟨rfl, by decide⟩
    · refine Action.relates_bind_eq (Action.relates_modify fun hpair => ?_) fun _ => ?_
      · exact ⟨hpair.1, congrArg (encoded ++ ·.drop encoded.length) hpair.2⟩
      · exact Action.relates_pure rfl

lemma DeviceState.relates_onBuffer {α : Type} {E E' : Failure → Failure → Prop} (buffer : Bytes)
    {step : Action (σ × Bytes) α} {step' : Action (τ × Bytes) α}
    (h : step.Relates (RelatedFst R) seen Eq E step') :
    (onBuffer buffer step).Relates (Related R) seen
      (fun p q => Ends Eq E p.1 q.1 ∧ p.2 = q.2) E' (onBuffer buffer step') := by
  intro d d' hrel
  obtain ⟨hresult, ⟨hservice, hbuffer⟩, hlog⟩ :=
    h (d.service, buffer) (d'.service, buffer) ⟨hrel.service, rfl⟩
  exact ⟨.ok ⟨hresult, hbuffer⟩, ⟨hservice, hrel.table, hrel.handOver⟩, hlog⟩

lemma Device.relates_encodeValue (h : service.Alike R seen other) (settings : Settings)
    (value : Single) (format : EncodeFormat) :
    (Device.encodeValue ⟨service, settings⟩ value format).Relates (DeviceState.Related R) seen Eq
      (Shared Failure.encodeCauses) (Device.encodeValue ⟨other, settings⟩ value format) := by
  refine Action.relates_bind (DeviceState.relates_onBuffer _
    (SignedValue.relates_encodeInto h KeyId.coseSign value format)) ?_
  rintro ⟨result, buffer⟩ ⟨result', _⟩ ⟨hresult, rfl⟩
  refine Action.relates_bind_eq (Action.relates_ofExcept hresult) fun length => ?_
  exact Action.relates_pure rfl

/-! ## Sessions -/

lemma Device.relates_publicKey (h : service.Alike R seen other) (settings : Settings)
    (id : KeyId) :
    (Device.publicKey ⟨service, settings⟩ id).Relates (DeviceState.Related R) seen Eq
      (Shared Failure.exportCauses) (Device.publicKey ⟨other, settings⟩ id) := by
  refine Action.relates_bind Action.relates_get fun {d d'} hrel => ?_
  rw [hrel.table]
  exact Action.relates_within (KeyTable.relates_publicKey h d'.table id)
    (fun hrel => hrel.service) fun hrel hstate => ⟨hstate, hrel.table, hrel.handOver⟩

/-- Runs a step that makes a request with a new builder.  Also returns the buffer and the stages
passed. -/
def DeviceState.onBuild {α : Type} (step : Action (CertRequest.Build σ) α) :
    Action (DeviceState σ) (Except Failure α × Tail × List CertRequest.Stage) := fun d =>
  let outcome := step { service := d.service }
  ⟨.ok (outcome.result, outcome.state.tail, outcome.state.passed),
    { d with service := outcome.state.service }, outcome.log⟩

lemma DeviceState.relates_onBuild {α : Type} {E E' : Failure → Failure → Prop}
    {step : Action (CertRequest.Build σ) α} {step' : Action (CertRequest.Build τ) α}
    (h : step.Relates (CertRequest.Build.Related R Eq) seen Eq E step') :
    (onBuild step).Relates (Related R) seen (fun p q => Ends Eq E p.1 q.1 ∧ p.2 = q.2) E'
      (onBuild step') := by
  intro d d' hrel
  obtain ⟨hresult, ⟨hservice, htail, hpassed⟩, hlog⟩ :=
    h { service := d.service } { service := d'.service } ⟨hrel.service, rfl, rfl⟩
  exact ⟨.ok ⟨hresult, Prod.ext htail hpassed⟩, ⟨hservice, hrel.table, hrel.handOver⟩, hlog⟩

/-- What a caller asks of a device. -/
inductive Device.Query where
  | publicKey (id : KeyId)
  | encodeInto (id : KeyId) (value : Single) (format : EncodeFormat) (buffer : Bytes)
  | encodeValue (value : Single) (format : EncodeFormat)
  | generateInto (id : KeyId) (uuid : String) (buffer : Bytes)
  | generate (id : KeyId) (uuid : String) (format : RequestFormat)

/-- What a caller gets, failures included, with the buffers and the stages that it can look at. -/
inductive Device.Answer where
  | octets (result : Except Failure Bytes)
  | written (result : Except Failure Nat) (buffer : Bytes)
  | request (result : Except Failure Nat) (tail : Tail) (passed : List CertRequest.Stage)
  | rendered (result : Except Failure Bytes) (tail : Tail) (passed : List CertRequest.Stage)

/-- Asks a device. -/
def Device.Query.ask (device : Device σ) : Query → Action (DeviceState σ) Answer
  | publicKey id => do return .octets (← (device.publicKey id).attempt)
  | encodeInto id value format buffer => do
    let (result, buffer) ← DeviceState.onBuffer buffer
      (SignedValue.encodeInto device.service id value format)
    return .written result buffer
  | encodeValue value format => do return .octets (← (device.encodeValue value format).attempt)
  | generateInto id uuid buffer => do
    let table := (← Action.get).table
    let (result, tail, passed) ← DeviceState.onBuild (CertRequest.generateInto device.service table
      device.settings.organization id uuid buffer)
    return .request result tail passed
  | generate id uuid format => do
    let table := (← Action.get).table
    let (result, tail, passed) ← DeviceState.onBuild (CertRequest.generate device.service table
      device.settings.organization device.settings.csrBufferSize.toNat id uuid format)
    return .rendered result tail passed

/-- One question is answered by both devices in the same way. -/
lemma Device.Query.relates_ask (h : service.Alike R seen other) (settings : Settings)
    (query : Query) :
    (query.ask ⟨service, settings⟩).Relates (DeviceState.Related R) seen Eq Eq
      (query.ask ⟨other, settings⟩) := by
  have hshared : ∀ {causes : List Failure} {e e' : Failure}, Shared causes e e' → e = e' :=
    fun hshared => hshared.1
  cases query with
  | publicKey id =>
    refine Action.relates_bind (Action.relates_attempt (Device.relates_publicKey h settings id))
      fun hends => Action.relates_pure ?_
    exact congrArg Answer.octets (hends.eq hshared)
  | encodeInto id value format buffer =>
    refine Action.relates_bind (DeviceState.relates_onBuffer buffer
      (SignedValue.relates_encodeInto h id value format)) ?_
    rintro ⟨result, written⟩ ⟨result', _⟩ ⟨hends, rfl⟩
    exact Action.relates_pure (congrArg (Answer.written · written) (hends.eq hshared))
  | encodeValue value format =>
    refine Action.relates_bind
      (Action.relates_attempt (Device.relates_encodeValue h settings value format))
      fun hends => Action.relates_pure ?_
    exact congrArg Answer.octets (hends.eq hshared)
  | generateInto id uuid buffer =>
    refine Action.relates_bind Action.relates_get fun {d d'} hrel => ?_
    rw [hrel.table]
    refine Action.relates_bind (DeviceState.relates_onBuild
      (CertRequest.relates_generateInto h d'.table _ id uuid buffer)) ?_
    rintro ⟨result, tail, passed⟩ ⟨result', _⟩ ⟨hends, rfl⟩
    exact Action.relates_pure (congrArg (Answer.request · tail passed) (hends.eq hshared))
  | generate id uuid format =>
    refine Action.relates_bind Action.relates_get fun {d d'} hrel => ?_
    rw [hrel.table]
    refine Action.relates_bind (DeviceState.relates_onBuild
      (CertRequest.relates_generate h d'.table _ _ id uuid format)) ?_
    rintro ⟨result, tail, passed⟩ ⟨result', _⟩ ⟨hends, rfl⟩
    exact Action.relates_pure (congrArg (Answer.rendered · tail passed) (hends.eq hshared))

/-- Asks a device one question after the other. -/
def Device.Query.session (device : Device σ) : List Query → Action (DeviceState σ) (List Answer)
  | [] => pure []
  | query :: rest => do
    let answer ← query.ask device
    let answers ← session device rest
    return answer :: answers

/-- So are any questions. -/
lemma Device.Query.relates_session (h : service.Alike R seen other) (settings : Settings) :
    ∀ queries : List Query, (session ⟨service, settings⟩ queries).Relates (DeviceState.Related R)
      seen Eq Eq (session ⟨other, settings⟩ queries)
  | [] => Action.relates_pure rfl
  | query :: rest => by
    refine Action.relates_bind_eq (relates_ask h settings query) fun answer => ?_
    refine Action.relates_bind_eq (relates_session h settings rest) fun answers => ?_
    exact Action.relates_pure rfl

end Operations

/-! ## The main result -/

/-- **Failures of the secure service are sanitised.**  Whatever the service answers and whatever it
fails with, each operation fails with none but its own causes, and a public key is returned only for
a slot that has a key, and starts with `04`.  Two services whose answers differ in concealed causes
alone, with the details that these carry, cannot be told apart: asked the same questions in the same
order, devices over them give the same answers, the buffers and the stages passed included, and emit
the same records among those that the services do not tell apart themselves. -/
theorem SecureService.failures_sanitised :
    (∀ {σ : Type} (service : SecureService σ) (table : KeyTable) (id : KeyId),
      (table.publicKey service id).FailsOnlyWith
        [.unknownKeyId, .exportFailed, .transportUnavailable] ∧
      ∀ {s s' : σ} {raw : Bytes}, (table.publicKey service id).Returns s raw s' →
        (∃ slot, KeyTable.slot id = .ok slot ∧ table.status slot ≠ .notProvisioned) ∧
          raw.head? = some 0x04) ∧
    (∀ {σ : Type} (service : SecureService σ) (id : KeyId) (value : Single)
      (format : EncodeFormat), (SignedValue.encodeInto service id value format).FailsOnlyWith
        [.unknownKeyId, .signingFailed, .transportUnavailable, .bufferTooSmall]) ∧
    (∀ {σ : Type} (device : Device σ) (value : Single) (format : EncodeFormat),
      (device.encodeValue value format).FailsOnlyWith
        [.unknownKeyId, .signingFailed, .transportUnavailable, .bufferTooSmall]) ∧
    (∀ {σ : Type} (service : SecureService σ) (table : KeyTable) (organization uuid : String)
      (id : KeyId),
      (∀ buffer : Bytes,
        (CertRequest.generateInto service table organization id uuid buffer).FailsOnlyWith
          [.unknownKeyId, .subjectNameInvalid, .encodingFailed, .transportUnavailable,
            .signingFailed, .bufferTooSmall]) ∧
      ∀ (size : Nat) (format : RequestFormat),
        (CertRequest.generate service table organization size id uuid format).FailsOnlyWith
          [.unknownKeyId, .subjectNameInvalid, .encodingFailed, .transportUnavailable,
            .signingFailed, .bufferTooSmall]) ∧
    (∀ {σ τ : Type} {R : σ → τ → Prop} {seen : LogRecord → Bool} {service : SecureService σ}
      {other : SecureService τ}, service.Alike R seen other →
      ∀ (settings : Settings) (queries : List Device.Query),
        (Device.Query.session ⟨service, settings⟩ queries).Relates (DeviceState.Related R) seen
          Eq Eq (Device.Query.session ⟨other, settings⟩ queries)) := by
  have hself : ∀ {σ : Type} (service : SecureService σ),
      service.Alike Eq (fun _ => true) service := fun service => service.alike_self _
  refine ⟨fun service table id => ⟨?_, ?_⟩, ?_, ?_, ?_, ?_⟩
  · exact (KeyTable.relates_publicKey (hself service) table id).failsOnlyWith fun _ => rfl
  · intro s s' raw hreturns
    obtain ⟨⟨slot, hslot, hkey⟩, -, hlead⟩ := KeyTable.returns_publicKey.1 hreturns
    exact ⟨⟨slot, hslot, of_decide_eq_true hkey⟩, hlead⟩
  · intro σ service id value format
    exact (SignedValue.relates_encodeInto (hself service) id value format).failsOnlyWith
      fun _ => ⟨rfl, rfl⟩
  · intro σ device value format
    exact (Device.relates_encodeValue (hself device.service) device.settings value
      format).failsOnlyWith fun _ => ⟨rfl, rfl, rfl⟩
  · intro σ service table organization uuid id
    refine ⟨fun buffer => ?_, fun size format => ?_⟩
    · exact (CertRequest.relates_generateInto (hself service) table organization id uuid
        buffer).failsOnlyWith fun _ => ⟨rfl, rfl, rfl⟩
    · exact (CertRequest.relates_generate (hself service) table organization size id uuid
        format).failsOnlyWith fun _ => ⟨rfl, rfl, rfl⟩
  · intro σ τ R seen service other halike settings queries
    exact Device.Query.relates_session halike settings queries

/-- A service that exports one key, whatever is asked for, and fails at all else. -/
def keyOnly (raw : Bytes) (cause : Failure) : SecureService Unit where
  labelSuffix _ := ""
  setLabelSuffix _ state := state
  deriveOctets _ _ := Action.fail cause
  importKey _ _ _ := Action.fail cause
  exportKey _ := pure raw
  sign _ _ := Action.fail cause
  encodeValue _ _ _ := Action.fail cause
  deviceUuid := Action.fail cause

lemma alike_keyOnly {raw : Bytes} {e e' : Failure} (h : e.SeenAlike e') :
    (keyOnly raw e).Alike Eq (fun _ => true) (keyOnly raw e') where
  exportKey _ := Action.relates_pure rfl
  sign _ _ := Action.relates_fail h
  encodeValue _ _ _ := Action.relates_fail h

/-- Two services that export the same key, and refuse to sign for reasons of their own.  The key is
handed out, and neither reason is. -/
theorem failures_sanitised_keyOnly :
    let raw : Bytes := 0x04 :: List.replicate 64 0
    let one := keyOnly raw (.invalidInput "slot 3")
    let two := keyOnly raw (.serialization "frame 12")
    let table := KeyTable.empty.set .coseSign .keyGenerated
    let d : DeviceState Unit := { service := (), table }
    let queries : List Device.Query :=
      [.publicKey KeyId.coseSign, .encodeInto KeyId.coseSign ⟨0⟩ .signed [1, 2]]
    (∃ slot, KeyTable.slot KeyId.coseSign = .ok slot ∧ table.status slot ≠ .notProvisioned) ∧
    (SignedValue.encodeInto one KeyId.coseSign ⟨0⟩ .signed).Fails ((), [1, 2]) .signingFailed
      ((), [1, 2]) ∧
    one.Alike Eq (fun _ => true) two ∧
    ((Device.Query.session ⟨one, {}⟩ queries).run d).result =
      .ok [.octets (.ok raw), .written (.error .signingFailed) [1, 2]] ∧
    ((Device.Query.session ⟨two, {}⟩ queries).run d).result =
      .ok [.octets (.ok raw), .written (.error .signingFailed) [1, 2]] := by
  intro raw one two table d queries
  have hkey : (table.publicKey one KeyId.coseSign).Returns () raw () := ⟨rfl, rfl⟩
  have halike : one.Alike Eq (fun _ => true) two :=
    alike_keyOnly (.inr ⟨⟨nofun, nofun⟩, nofun, nofun⟩)
  have hone : ((Device.Query.session ⟨one, {}⟩ queries).run d).result =
      .ok [.octets (.ok raw), .written (.error .signingFailed) [1, 2]] := rfl
  obtain ⟨hpublicKey, -, -, -, hsession⟩ := SecureService.failures_sanitised
  have hmatches := hsession halike {} queries d d ⟨rfl, rfl, rfl⟩
  refine ⟨((hpublicKey one table KeyId.coseSign).2 hkey).1, ⟨rfl, rfl⟩, halike, hone, ?_⟩
  rw [← hmatches.result.eq id]
  exact hone

end DeviceIdentity

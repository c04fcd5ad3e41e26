import DeviceIdentity.Proofs.CertRequest.Related
import DeviceIdentity.Proofs.CertRequest.Room
import DeviceIdentity.Proofs.Device.Frame
import DeviceIdentity.Proofs.Json.RoundTrip
import DeviceIdentity.Proofs.Partition.Extension
import DeviceIdentity.Proofs.Pem.RoundTrip

/-!
# The forms of a request carry the same request

A request is made once, as octets, and then put into the form asked for, which cannot fail any more.
What was made with a buffer before makes no difference, since the buffer is filled anew and the
stages passed are only ever added to.  The emulated partition signs the same octets in the same way
each time and stays as it is, so the three forms of a request come together or fail together.

* `Alike` — two states differ in the stages passed alone; `generateInto_alike` — making a request
  does not tell such states apart.
* `made` — the request that is made from a state of the service; `result_generate` — every form is a
  form of this request; `Material.not_fails_generate` — if it fits, there is one.
* **`formats_agree`** — the three forms fail together, or they are forms of one request, and both
  texts read back; `formats_agree_onesKey` — on a partition with the signing key they are made.
-/

namespace DeviceIdentity

namespace CertRequest

/-! ## What was made before makes no difference -/

section Service

variable {σ α : Type} {service : SecureService σ} {table : KeyTable} {organization uuid : String}
  {id : KeyId}

/-- The two states differ in the stages passed alone. -/
structure Alike (b b' : Build σ) : Prop where
  service : b.service = b'.service
  tail : b.tail = b'.tail

/-- Neither making a request nor giving up looks at the stages passed. -/
lemma respects_build_or_abandon :
    (do
      match ← (build service table organization uuid id).attempt with
      | .ok length => return length
      | .error cause => abandon cause : Action (Build σ) Nat).Respects Alike := by
  intro b b' h
  have hmatches := relates_build_or_abandon (P := fun _ _ => True) (fun _ _ _ _ => trivial)
    (service.alike_self fun _ => true) table organization uuid id b b' ⟨h.service, h.tail, trivial⟩
  exact ⟨hmatches.result.eq fun hshared => hshared.1, hmatches.state.service, hmatches.state.tail⟩

/-- Making a request in a buffer depends on nothing but the service and the buffer. -/
lemma generateInto_alike (service : SecureService σ) (table : KeyTable)
    (organization uuid : String) (id : KeyId) (buffer : Bytes) {b b' : Build σ}
    (h : b.service = b'.service) :
    let step := generateInto service table organization id uuid buffer
    (step.run b).result = (step.run b').result ∧ Alike (step.run b).state (step.run b').state := by
  have hstart : Alike { b with tail := Tail.ofBuffer buffer, passed := .start :: b.passed }
      { b' with tail := Tail.ofBuffer buffer, passed := .start :: b'.passed } := ⟨h, rfl⟩
  exact respects_build_or_abandon hstart

/-! ## The forms of a request -/

/-- The request that is made from a state of the service in a buffer of `size` octets, or why none
is made. -/
def made (service : SecureService σ) (table : KeyTable) (organization : String) (size : Nat)
    (id : KeyId) (uuid : String) (s : σ) : Except Failure Bytes :=
  let outcome := (generateInto service table organization id uuid (List.replicate size 0)).run
    { service := s }
  outcome.result.map fun _ => outcome.state.tail.written

/-- A request in one of its forms. -/
def rendered : RequestFormat → Bytes → Bytes
  | .der, request => request
  | .pem, request => Bytes.ofText (Pem.encode pemLabel request)
  | .json, request => Bytes.ofText (envelope (Pem.encode pemLabel request))

/-- What is left to do after the request is written does not fail. -/
lemma result_finish (format : RequestFormat) (b : Build σ) :
    ((do
      let der := (← Action.get).tail.written
      let out ← render format der
      Build.pass .done
      return out : Action (Build σ) Bytes).run b).result =
        .ok (rendered format b.tail.written) := by
  cases format <;> rfl

/-- Every form is a form of the request that is made from the state of the service. -/
lemma result_generate {size : Nat} (format : RequestFormat) (b : Build σ) :
    ((generate service table organization size id uuid format).run b).result =
      (made service table organization size id uuid b.service).map (rendered format) := by
  have hsame : b.service = ({ service := b.service } : Build σ).service := rfl
  obtain ⟨hresult, halike⟩ := generateInto_alike service table organization uuid id
    (List.replicate size 0) hsame
  unfold generate made
  simp only
  cases hmade : ((generateInto service table organization id uuid
      (List.replicate size 0)).run b).result with
  | error e =>
    rw [Action.run_bind_of_error hmade, ← hresult, hmade]
    rfl
  | ok length =>
    rw [Action.run_bind_of_ok hmade, ← hresult, hmade, ← halike.tail]
    exact result_finish format _

/-- A request that fits is made, in every form. -/
lemma Material.not_fails_generate {s : σ} (m : Material service table organization uuid id s)
    {size : Nat} (hsize : m.request.length ≤ size) (b : RequestFormat → Build σ) :
    ¬∃ e, ∀ format, ((generate service table organization size id uuid format).run
      { b format with service := s }).result = .error e := by
  rintro ⟨e, hfails⟩
  obtain ⟨hresult, -⟩ := m.run_generateInto { service := s } (List.replicate size 0) (service_mk s)
  rw [List.length_replicate, if_pos hsize] at hresult
  have hder := hfails .der
  rw [result_generate, made, hresult] at hder
  cases hder

end Service

/-- **The forms of a request agree.**  From any state of the emulated partition, with any key table,
settings, key and UUID, and whatever was made with the buffers before, making a request in its three
forms leaves the partition as it is, and the three fail with one cause, or they are the octets of
one request, its armored text, and a JSON object that has this text as its only member, called
`CSR`.  The octets read back from the armored text. -/
theorem formats_agree (s : Partition) (table : KeyTable) (settings : Settings) (id : KeyId)
    (uuid : String) (b : RequestFormat → Build Partition) :
    let outcome (format : RequestFormat) :=
      (generate Partition.service table settings.organization settings.csrBufferSize.toNat id uuid
        format).run { b format with service := s }
    (∀ format, (outcome format).state.service = s) ∧
    ((∃ e, ∀ format, (outcome format).result = .error e) ∨
      ∃ request pem json,
        (outcome .der).result = .ok request ∧
        (outcome .pem).result = .ok (Bytes.ofText pem) ∧
        (outcome .json).result = .ok (Bytes.ofText json) ∧
        pem = Pem.encode "CERTIFICATE REQUEST" request ∧
        Pem.decode "CERTIFICATE REQUEST" pem = .ok request ∧
        Json.parse? json = some (.object [("CSR", .text pem)])) := by
  intro outcome
  have hresult : ∀ format, (outcome format).result =
      (made Partition.service table settings.organization settings.csrBufferSize.toNat id uuid
        s).map (rendered format) := fun format => result_generate format _
  refine ⟨fun format => ?_, ?_⟩
  · have hkeeps : (generate Partition.service table settings.organization
        settings.csrBufferSize.toNat id uuid format).Keeps (OnService Eq) :=
      keeps_generate Partition.keeps_exportKey Partition.keeps_sign _ _ _ _ _ _
    exact (hkeeps { b format with service := s }).symm
  · cases hmade : made Partition.service table settings.organization
        settings.csrBufferSize.toNat id uuid s with
    | error e =>
      refine .inl ⟨e, fun format => ?_⟩
      rw [hresult, hmade]
      rfl
    | ok request =>
      refine .inr ⟨request, Pem.encode "CERTIFICATE REQUEST" request,
        envelope (Pem.encode "CERTIFICATE REQUEST" request), ?_, ?_, ?_, rfl,
        Pem.decode_encode _ request, Json.parse?_object_text _ _⟩
      · rw [hresult, hmade]
        rfl
      · rw [hresult, hmade]
        rfl
      · rw [hresult, hmade]
        rfl

/-- Results that are the octets of a request, its armored text, and an object with that text. -/
def AreForms (result : RequestFormat → Except Failure Bytes) : Prop :=
  ∃ request pem json,
    result .der = .ok request ∧ result .pem = .ok (Bytes.ofText pem) ∧
    result .json = .ok (Bytes.ofText json) ∧ Pem.decode "CERTIFICATE REQUEST" pem = .ok request ∧
    Json.parse? json = some (.object [("CSR", .text pem)])

/-- On a partition that holds the signing key, the three forms do come together. -/
theorem formats_agree_onesKey :
    let s : Partition :=
      { hardwareKey := Device.ones
        keys := [(KeyId.coseSign, ⟨Device.onesKey, KeySlot.coseSign.usage⟩)] }
    let table := KeyTable.empty.set .coseSign .keyGenerated
    let settings : Settings := { organization := "Acme" }
    AreForms fun format => ((generate Partition.service table settings.organization
      settings.csrBufferSize.toNat KeyId.coseSign "device-1" format).run
        { service := s }).result := by
  -- for any partition, so that nothing is computed with this one
  have hany : ∀ (s : Partition) (table : KeyTable) (settings : Settings)
      (m : Material Partition.service table settings.organization "device-1" KeyId.coseSign s),
      m.request.length ≤ settings.csrBufferSize.toNat →
        AreForms fun format => ((generate Partition.service table settings.organization
          settings.csrBufferSize.toNat KeyId.coseSign "device-1" format).run
            { service := s }).result := by
    intro s table settings m hsize
    obtain ⟨request, pem, json, hder, hpem, hjson, -, hdecode, hparse⟩ :=
      (formats_agree s table settings KeyId.coseSign "device-1"
        fun _ => { service := s }).2.resolve_left (m.not_fails_generate hsize _)
    exact ⟨request, pem, json, hder, hpem, hjson, hdecode, hparse⟩
  intro s table settings
  have hkey : s.key? KeySlot.coseSign.keyId = some ⟨Device.onesKey, KeySlot.coseSign.usage⟩ := rfl
  have hbacked : KeyTable.Backed (s, table) := by
    intro slot hslot
    cases slot with
    | coseSign => exact ⟨_, hkey⟩
    | _ => cases hslot
  obtain ⟨m, hlength⟩ := exists_material hbacked rfl (by decide) rfl isPlain_acme.1 isPlain_acme.2
    (signsBody_onesKey hkey)
  exact hany s table settings m (hlength.trans (by decide))

end CertRequest

end DeviceIdentity

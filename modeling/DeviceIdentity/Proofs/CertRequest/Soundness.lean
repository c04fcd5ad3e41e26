import DeviceIdentity.Proofs.CertRequest.Decode
import DeviceIdentity.Proofs.Key.Table
import DeviceIdentity.Proofs.P256.Signature
import DeviceIdentity.Proofs.Partition.Calls

/-!
# A request says what it should

A request is made in four stages over one buffer.  Each stage is described by what it asks of the
secure service and what it leaves in the buffer; nothing is assumed of what the service answers.

* `returns_subject`, `returns_body`, `returns_signature`, `returns_assemble` — the stages.
* `returns_build` — the stages together.
* `request_of_generateInto` — the octets at the end of the buffer read as a request, and each part
  of it comes from where it should.
* **`generateInto_sound`** — this for every service; and on the emulated partition, the signature
  in the request verifies over the body in it under the key in it.
-/

namespace DeviceIdentity

namespace CertRequest

open DeviceIdentity.Action (Returns)

section Stages

variable {σ : Type} {service : SecureService σ} {table : KeyTable} {organization uuid : String}
  {id : KeyId} {b b' : Build σ}

lemma returns_pass {stage : Stage} {u : Unit} (h : (Build.pass stage).Returns b u b') :
    b'.service = b.service ∧ b'.tail = b.tail := by
  obtain rfl := Action.returns_modify.1 h
  exact ⟨rfl, rfl⟩

lemma returns_call {α : Type} {step : Action σ α} {a : α} (h : (Build.call step).Returns b a b') :
    step.Returns b.service a b'.service ∧ b'.tail = b.tail := by
  obtain ⟨reached, hstep, rfl⟩ := Action.returns_within.1 h
  exact ⟨hstep, rfl⟩

lemma returns_write {α : Type} {step : Der.Write α} {a : α}
    (h : (Build.write step).Returns b a b') :
    step.Returns b.tail a b'.tail ∧ b'.service = b.service := by
  obtain ⟨reached, hstep, rfl⟩ := Action.returns_within.1 h
  exact ⟨Action.returns_mapFailure.1 hstep, rfl⟩

/-- The first stage gives the subject of the slot, and touches neither service nor buffer. -/
lemma returns_subject {name : SubjectName} (h : (subject organization uuid id).Returns b name b') :
    (∃ slot, KeyTable.slot id = .ok slot ∧
      SubjectName.forDevice organization uuid slot.label = .ok name) ∧
    b'.service = b.service ∧ b'.tail = b.tail := by
  obtain ⟨slot, b₁, hfind, h⟩ := Action.returns_bind.1 h
  obtain ⟨hslot, rfl⟩ := Action.returns_ofExcept.1 hfind
  obtain ⟨name', b₂, hmake, h⟩ := Action.returns_bind.1 h
  obtain ⟨hname, rfl⟩ := Action.returns_ofExcept.1 hmake
  obtain ⟨_, b₃, hlog, h⟩ := Action.returns_bind.1 h
  obtain rfl := Action.returns_log.1 hlog
  obtain ⟨_, b₄, hpass, h⟩ := Action.returns_bind.1 h
  obtain ⟨rfl, rfl⟩ := Action.returns_pure.1 h
  exact ⟨⟨slot, hslot, hname⟩, returns_pass hpass⟩

/-- The second stage writes the body of the exported key and the subject. -/
lemma returns_body {name : SubjectName} {bs : Bytes}
    (h : (body service table id name).Returns b bs b') :
    ∃ publicKey octets, (service.exportKey id).Returns b.service publicKey b'.service ∧
      body? publicKey name = some octets ∧ b.tail.prepend? octets = some b'.tail ∧
      octets ++ b.tail.written = bs := by
  obtain ⟨publicKey, b₁, hkey, h⟩ := Action.returns_bind.1 h
  obtain ⟨octets, b₂, hwrite, h⟩ := Action.returns_bind.1 h
  obtain ⟨_, b₃, hpass, h⟩ := Action.returns_bind.1 h
  obtain ⟨rfl, rfl⟩ := Action.returns_pure.1 h
  obtain ⟨hkey, htail₁⟩ := returns_call hkey
  obtain ⟨hwrite, hservice₂⟩ := returns_write hwrite
  obtain ⟨hservice₃, htail₃⟩ := returns_pass hpass
  obtain ⟨-, hexport, -⟩ := KeyTable.returns_publicKey.1 (Action.returns_mapFailure.1 hkey)
  obtain ⟨written, hbody, hprepend, hoctets⟩ := returns_writeBody.1 hwrite
  rw [htail₁] at hprepend hoctets
  rw [hservice₃, hservice₂, htail₃]
  exact ⟨publicKey, written, hexport, hbody, hprepend, hoctets⟩

lemma returns_signature {message raw : Bytes}
    (h : (signature service id message).Returns b raw b') :
    (service.sign id message).Returns b.service raw b'.service ∧ b'.tail = b.tail := by
  obtain ⟨raw', b₁, hsign, h⟩ := Action.returns_bind.1 h
  obtain ⟨_, b₂, hpass, h⟩ := Action.returns_bind.1 h
  obtain ⟨rfl, rfl⟩ := Action.returns_pure.1 h
  obtain ⟨hsign, htail₁⟩ := returns_call hsign
  obtain ⟨hservice₂, htail₂⟩ := returns_pass hpass
  rw [hservice₂, htail₂]
  exact ⟨Action.returns_mapFailure.1 hsign, htail₁⟩

/-- The last stage writes the request anew over the whole buffer. -/
lemma returns_assemble {message raw : Bytes} {n : Nat}
    (h : (assemble (σ := σ) message raw).Returns b n b') :
    ∃ request, signed? message raw = some request ∧ n = request.length ∧
      b.tail.reset.prepend? request = some b'.tail ∧ b'.service = b.service := by
  obtain ⟨_, b₁, hreset, h⟩ := Action.returns_bind.1 h
  obtain ⟨n', b₂, hwrite, h⟩ := Action.returns_bind.1 h
  obtain ⟨_, b₃, hpass, h⟩ := Action.returns_bind.1 h
  obtain ⟨rfl, rfl⟩ := Action.returns_pure.1 h
  obtain ⟨hreset, hservice₁⟩ := returns_write hreset
  obtain ⟨hwrite, hservice₂⟩ := returns_write hwrite
  obtain ⟨hservice₃, htail₃⟩ := returns_pass hpass
  have htail₁ : b₁.tail = b.tail.reset := (Action.returns_modify.1 hreset).symm
  obtain ⟨request, hrequest, hn, hprepend⟩ :=
    (encodes_writeSigned message raw).returns_counted.1 hwrite
  rw [htail₁] at hprepend
  rw [htail₃, hservice₃, hservice₂, hservice₁]
  exact ⟨request, hrequest, hn, hprepend, rfl⟩

end Stages

/-- The four stages together, from a buffer with nothing written: which body is signed, and which
request stands at the end. -/
lemma returns_build {σ : Type} {service : SecureService σ} {table : KeyTable}
    {organization uuid : String} {id : KeyId} {b b' : Build σ} {n : Nat}
    (hempty : b.tail.written = [])
    (h : (build service table organization uuid id).Returns b n b') :
    ∃ slot name publicKey message raw request reached,
      KeyTable.slot id = .ok slot ∧
      SubjectName.forDevice organization uuid slot.label = .ok name ∧
      (service.exportKey id).Returns b.service publicKey reached ∧
      body? publicKey name = some message ∧
      (service.sign id message).Returns reached raw b'.service ∧
      signed? message raw = some request ∧ n = request.length ∧
      b'.tail.written = request ∧ b'.tail.buffer.length = b.tail.buffer.length := by
  obtain ⟨name, b₁, hsubject, h⟩ := Action.returns_bind.1 h
  obtain ⟨message, b₂, hbody, h⟩ := Action.returns_bind.1 h
  obtain ⟨raw, b₃, hsignature, hassemble⟩ := Action.returns_bind.1 h
  obtain ⟨⟨slot, hslot, hname⟩, hservice₁, htail₁⟩ := returns_subject hsubject
  obtain ⟨publicKey, octets, hexport, hoctets, hprepend, hmessage⟩ := returns_body hbody
  obtain ⟨hsign, htail₃⟩ := returns_signature hsignature
  obtain ⟨request, hrequest, hn, hwritten, hservice₄⟩ := returns_assemble hassemble
  rw [htail₁] at hprepend hmessage
  rw [hempty, List.append_nil] at hmessage
  rw [hservice₁] at hexport
  rw [htail₃] at hwritten
  rw [hmessage] at hoctets
  have hlength : b'.tail.buffer.length = b.tail.buffer.length := by
    calc b'.tail.buffer.length
        = b₂.tail.reset.buffer.length := Tail.length_buffer_prepend? hwritten
      _ = b₂.tail.buffer.length := by rw [Tail.buffer_reset]
      _ = b.tail.buffer.length := Tail.length_buffer_prepend? hprepend
  refine ⟨slot, name, publicKey, message, raw, request, b₂.service, hslot, hname, hexport, hoctets,
    ?_, hrequest, hn, ?_, hlength⟩
  · rw [hservice₄]
    exact hsign
  · rw [Tail.written_of_prepend? hwritten, Tail.written_reset, List.append_nil]

/-- Making a request starts with an empty buffer, and a failure on the way ends it. -/
lemma build_of_generateInto {σ : Type} {service : SecureService σ} {table : KeyTable}
    {organization uuid : String} {id : KeyId} {buffer : Bytes} {b b' : Build σ} {n : Nat}
    (h : (generateInto service table organization id uuid buffer).Returns b n b') :
    (build service table organization uuid id).Returns
      { b with tail := Tail.ofBuffer buffer, passed := .start :: b.passed } n b' := by
  obtain ⟨_, b₀, hstart, h⟩ := Action.returns_bind.1 h
  obtain rfl := Action.returns_modify.1 hstart
  obtain ⟨result, b₁, hattempt, h⟩ := Action.returns_bind.1 h
  obtain ⟨hresult, hstate⟩ := Action.returns_attempt.1 hattempt
  cases result with
  | error cause =>
    obtain ⟨_, _, -, h⟩ := Action.returns_bind.1 h
    obtain ⟨_, _, -, h⟩ := Action.returns_bind.1 h
    exact (Action.returns_fail.1 h).elim
  | ok length =>
    obtain ⟨rfl, rfl⟩ := Action.returns_pure.1 h
    exact ⟨hresult, hstate⟩

lemma drop_buffer {t : Tail} {size : Nat} (hsize : t.buffer.length = size) :
    t.written.length ≤ size ∧ t.buffer.drop (size - t.written.length) = t.written := by
  have hfree : size - t.written.length = t.free.length := by
    rw [← hsize, Tail.buffer, List.length_append, Nat.add_sub_cancel]
  refine ⟨?_, ?_⟩
  · rw [← hsize, Tail.buffer, List.length_append]
    exact Nat.le_add_left _ _
  · rw [hfree, Tail.buffer, List.drop_left]

/-- The octets at the end of the buffer read as a request, and each part of it comes from where it
should. -/
lemma request_of_generateInto {σ : Type} {service : SecureService σ} {table : KeyTable}
    {organization uuid : String} {id : KeyId} {buffer : Bytes} {b b' : Build σ} {n : Nat}
    (h : (generateInto service table organization id uuid buffer).Returns b n b') :
    ∃ slot request raw reached,
      KeyTable.slot id = .ok slot ∧
      SubjectName.forDevice organization uuid slot.label = .ok request.subject ∧
      (service.exportKey id).Returns b.service request.publicKey reached ∧
      (service.sign id request.body).Returns reached raw b'.service ∧
      n ≤ buffer.length ∧ b'.tail.buffer.length = buffer.length ∧
      decode? (b'.tail.buffer.drop (buffer.length - n)) = some request ∧
      (request.publicKey.length = PublicKeyInfo.rawLength →
        PublicKeyInfo.der request.publicKey = .ok request.publicKeyInfo) ∧
      request.r = Bytes.toNat (raw.take (raw.length / 2)) ∧
      request.s = Bytes.toNat (raw.drop (raw.length / 2)) := by
  obtain ⟨slot, name, publicKey, message, raw, octets, reached, hslot, hname, hexport, hmessage,
    hsign, hoctets, rfl, hwritten, hsize⟩ := returns_build rfl (build_of_generateInto h)
  rw [Tail.buffer_ofBuffer] at hsize
  obtain ⟨info, hinfo, hdecode⟩ := decode?_of_signed? hmessage hoctets
  obtain ⟨hle, hdrop⟩ := drop_buffer hsize
  rw [hwritten] at hle hdrop
  rw [← hdrop] at hdecode
  exact ⟨slot, _, raw, reached, hslot, hname, hexport, hsign, hle, hsize, hdecode,
    fun hraw => PublicKeyInfo.der_eq_ok hraw hinfo, rfl, rfl⟩

/-- **A request says what it should.**  Whatever the service answers, if a request of `n` octets is
made, the last `n` octets of the buffer read strictly as a request whose subject is that of the
slot, whose key is the one that the service exported, whose body is what the service signed, and
whose two numbers are the halves of what the service returned as the signature.  On the emulated
partition, the signature then verifies over the body under the key. -/
theorem generateInto_sound :
    (∀ {σ : Type} {service : SecureService σ} {table : KeyTable} {organization uuid : String}
      {id : KeyId} {buffer : Bytes} {b b' : Build σ} {n : Nat},
      (generateInto service table organization id uuid buffer).Returns b n b' →
        ∃ slot request raw reached,
          KeyTable.slot id = .ok slot ∧
          SubjectName.forDevice organization uuid slot.label = .ok request.subject ∧
          (service.exportKey id).Returns b.service request.publicKey reached ∧
          (service.sign id request.body).Returns reached raw b'.service ∧
          n ≤ buffer.length ∧ b'.tail.buffer.length = buffer.length ∧
          decode? (b'.tail.buffer.drop (buffer.length - n)) = some request ∧
          (request.publicKey.length = PublicKeyInfo.rawLength →
            PublicKeyInfo.der request.publicKey = .ok request.publicKeyInfo) ∧
          request.r = Bytes.toNat (raw.take (raw.length / 2)) ∧
          request.s = Bytes.toNat (raw.drop (raw.length / 2))) ∧
    (∀ {table : KeyTable} {organization uuid : String} {id : KeyId} {buffer : Bytes}
      {b b' : Build Partition} {n : Nat},
      (generateInto Partition.service table organization id uuid buffer).Returns b n b' →
        ∃ request point pair,
          decode? (b'.tail.buffer.drop (buffer.length - n)) = some request ∧
          P256.Point.decode? request.publicKey = some point ∧
          request.r = (pair.1.val : Int) ∧ request.s = (pair.2.val : Int) ∧
          Ecdsa.verify point request.body pair = true) := by
  refine ⟨request_of_generateInto, ?_⟩
  intro table organization uuid id buffer b b' n h
  obtain ⟨slot, request, raw, reached, -, -, hexport, hsign, -, -, hdecode, -, hr, hs⟩ :=
    request_of_generateInto h
  obtain ⟨-, rfl, stored, hstored, hkey⟩ := Partition.returns_exportKey.1 hexport
  obtain ⟨-, -, hmade⟩ := Partition.returns_sign.1 hsign
  obtain ⟨-, signer, hsigner, -, hsignature⟩ := Partition.returns_signAny.1 hmade
  -- the key that signs is the key that was exported
  obtain rfl : stored = signer := Option.some.inj (hstored.symm.trans hsigner)
  obtain ⟨hlength, pair, hpair, hverify⟩ := Ecdsa.verify_sign hsignature
  obtain ⟨hpairR, hpairS⟩ := Ecdsa.parse?_eq_some hpair
  have hhalf : raw.length / 2 = 32 := by rw [hlength, Ecdsa.signatureLength]
  refine ⟨request, stored.privateKey.point, pair, hdecode, ?_, ?_, ?_, hverify⟩
  · rw [hkey]
    exact Ecdsa.PrivateKey.decode?_encode_point stored.privateKey
  · rw [hr, hhalf, hpairR]
  · rw [hs, hhalf, hpairS]

/-- A partition whose key for TLS clients is the number one. -/
def unitPartition : Partition where
  hardwareKey := Device.ones
  keys := [(KeyId.clientTls, ⟨⟨1, by decide⟩, KeySlot.clientTls.usage⟩)]

set_option maxRecDepth 100000 in
/-- With that key, a request of 251 octets is made at the end of a used buffer. -/
lemma result_generateInto_unitPartition :
    ((generateInto Partition.service ⟨fun _ => .keyGenerated⟩ "Acme" KeyId.clientTls "device-1"
      (List.replicate 300 0xAA)).run { service := unitPartition }).result = .ok 251 := by
  conv in Partition.service =>
    unfold Partition.service Partition.sign Partition.signAny
    rw [Ecdsa.sign_eq]
  -- by its equation, so that the kernel does not look for a nonce before it has the message
  simp only [Ecdsa.signAtOnce.eq_1, Ecdsa.Drbg.next, Ecdsa.Drbg.seed, Ecdsa.Drbg.mix, Ecdsa.pair?,
    Ecdsa.messageNumber, Hmac.mac, Sha256.hash_eq]
  decide +kernel

/-- The request of that partition has the three attributes of its subject, and verifies. -/
theorem generateInto_sound_unitPartition :
    ∃ b' request point pair,
      (generateInto Partition.service ⟨fun _ => .keyGenerated⟩ "Acme" KeyId.clientTls "device-1"
        (List.replicate 300 0xAA)).Returns { service := unitPartition } 251 b' ∧
      decode? (b'.tail.buffer.drop 49) = some request ∧
      request.subject = ⟨[(.organization, "Acme"), (.commonName, "device-1"),
        (.organizationalUnit, "Device Client TLS")]⟩ ∧
      P256.Point.decode? request.publicKey = some point ∧
      Ecdsa.verify point request.body pair = true := by
  have h := Action.returns_of_result result_generateInto_unitPartition
  obtain ⟨slot, request, -, -, hslot, hsubject, -, -, -, -, hdecode, -⟩ := generateInto_sound.1 h
  obtain ⟨request', point, pair, hdecode', hpoint, -, -, hverify⟩ := generateInto_sound.2 h
  obtain rfl : request = request' := Option.some.inj (hdecode.symm.trans hdecode')
  rw [List.length_replicate] at hdecode
  refine ⟨_, request, point, pair, h, hdecode, ?_, hpoint, hverify⟩
  obtain rfl : KeySlot.clientTls = slot := Except.ok.inj hslot
  have hname : SubjectName.forDevice "Acme" "device-1" KeySlot.clientTls.label =
      .ok ⟨[(.organization, "Acme"), (.commonName, "device-1"),
        (.organizationalUnit, "Device Client TLS")]⟩ := by decide +kernel
  exact Except.ok.inj (hsubject.symm.trans hname)

end CertRequest

end DeviceIdentity

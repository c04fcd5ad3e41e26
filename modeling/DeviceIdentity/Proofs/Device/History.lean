import DeviceIdentity.Proofs.Device.Frame
import DeviceIdentity.Proofs.Device.Provisioning
import DeviceIdentity.Proofs.P256.Signature
import DeviceIdentity.Proofs.SignedValue.Encode

/-!
# A slot with a key has its own key

The status of a slot is kept in the key table and the key itself in the partition, and both can be
changed by many operations.  Two facts together carry the invariant through all of them: the
partition only grows, and a slot comes to have a key in one place only, where the partition has just
stored that key.

* `Device.Operation` — what can happen to a device and to the partition that it shares.
* `Device.history` — the state after operations.
* `Partition.Holds` — the partition holds the key of a slot.
* `Device.Grows` — the partition is extended, and each new key of the table is held.
* `grows_turn`, `keeps_operation` — each step keeps this; `grows_run` — so does a run.
* **`slots_hold_their_keys`** — in every state that can be reached, a slot that has a key has its
  own; and the public key of a slot depends only on the hardware key and the label suffix.
-/

namespace DeviceIdentity

open DeviceIdentity.Action (Keeps)

namespace Partition

/-- The partition holds the key of a slot: derived for its label, and with its uses. -/
def Holds (s : Partition) (slot : KeySlot) : Prop :=
  ∃ stored, s.key? slot.keyId = some stored ∧ stored.usage = slot.usage ∧
    Ecdsa.scalarOctets stored.privateKey.scalar = s.derivedScalar slot.label

lemma Holds.extends {s s' : Partition} {slot : KeySlot} (h : s.Holds slot) (hext : Extends s s') :
    s'.Holds slot := by
  obtain ⟨stored, hstored, husage, hscalar⟩ := h
  refine ⟨stored, hext.key? hstored, husage, ?_⟩
  rw [hext.derivedScalar, hscalar]

lemma holds_of_deriveKey {s s' : Partition} {slot : KeySlot} {u : Unit}
    (h : (service.deriveKey slot.keyId slot.label slot.usage).Returns s u s') :
    s'.Holds slot := by
  have hext : Extends s s' := (keeps_deriveKey _ _ _).of_returns h
  obtain ⟨-, key, hkey, hstate⟩ := returns_importKey.1 (returns_deriveKey.1 h)
  have hscalar := Ecdsa.PrivateKey.ofOctets?_eq_some_iff.1 hkey
  refine ⟨⟨key, slot.usage⟩, ?_, rfl, ?_⟩
  · rcases hstate with ⟨-, rfl⟩ | ⟨hsame, rfl⟩
    · exact key?_store_self s slot.keyId _
    · exact hsame
  · rw [hext.derivedScalar]
    exact hscalar

end Partition

namespace Device

open DeviceIdentity.Partition (Extends)

/-! ## Operations -/

/-- What can happen to a device and to the partition that it shares with others. -/
inductive Operation where
  /-- Another user asks the partition. -/
  | call (call : Partition.Call)
  /-- Another table, without any key, is provisioned on the same partition. -/
  | provisionElsewhere
  | init
  | recordCertificate (id : KeyId)
  | applyResponse (octets : Bytes)
  | uuid
  | publicKey (id : KeyId)
  | generateRequest (id : KeyId) (format : RequestFormat)
  | encodeValue (value : Single) (format : EncodeFormat)
  | encodeInto (id : KeyId) (value : Single) (format : EncodeFormat) (buffer : Bytes)
  | inferInto (model : SineModel) (x : Single) (format : EncodeFormat) (buffer : Bytes)
  | verify (id : KeyId) (message : Bytes)
  | waitForRecord

/-- A step whose value is of no interest. -/
def silent {σ α : Type} (step : Action σ α) : Action σ Unit := do
  let _ ← step
  return ()

/-- Carries out an operation on a device with given settings. -/
def Operation.run (settings : Settings) : Operation → Action (DeviceState Partition) Unit
  | call c => DeviceState.onService (silent c.run)
  | provisionElsewhere =>
    DeviceState.onService (silent ((KeyTable.provision Partition.service).within
      (fun s => (s, KeyTable.empty)) fun p _ => p.1))
  | init => silent (emulated settings).init
  | recordCertificate id => DeviceState.onTable (KeyTable.recordCertificate id)
  | applyResponse octets => Device.applyResponse octets
  | uuid => silent (emulated settings).uuid
  | publicKey id => silent ((emulated settings).publicKey id)
  | generateRequest id format => silent ((emulated settings).generateRequest id format)
  | encodeValue value format => silent ((emulated settings).encodeValue value format)
  | encodeInto id value format buffer =>
    silent (DeviceState.onBuffer buffer
      (SignedValue.encodeInto Partition.service id value format))
  | inferInto model x format buffer =>
    silent (DeviceState.onBuffer buffer (model.inferInto Partition.service x format))
  | verify id message => silent ((emulated settings).verify id message)
  | waitForRecord => silent (emulated settings).waitForRecord

/-- The state of a device over `partition` after operations. -/
def history (settings : Settings) (partition : Partition) (operations : List Operation) :
    DeviceState Partition :=
  operations.foldl (fun d operation => ((operation.run settings).run d).state)
    ((emulated settings).start partition)

/-! ## The invariant -/

/-- The partition is extended, and a slot that has a key now had one before or its key is held. -/
def Grows (p p' : Partition × KeyTable) : Prop :=
  Extends p.1 p'.1 ∧ ∀ slot, p'.2.hasKey slot = true → p.2.hasKey slot = true ∨ p'.1.Holds slot

instance : IsPreorder (Partition × KeyTable) Grows where
  refl p := ⟨refl_of Extends p.1, fun _ h => .inl h⟩
  trans p p' p'' h h' := by
    refine ⟨trans_of Extends h.1 h'.1, fun slot hkey => ?_⟩
    rcases h'.2 slot hkey with hkey | hholds
    · rcases h.2 slot hkey with hkey | hholds
      · exact .inl hkey
      · exact .inr (hholds.extends h'.1)
    · exact .inr hholds

/-- The partition and the table of a device grow. -/
def StateGrows (d d' : DeviceState Partition) : Prop :=
  Grows (d.service, d.table) (d'.service, d'.table)

instance : IsPreorder (DeviceState Partition) StateGrows where
  refl d := refl_of Grows (d.service, d.table)
  trans _ _ _ h h' := trans_of Grows h h'

/-! ## What one step keeps -/

/-- A slot without a key is given one only after the partition has stored it. -/
lemma grows_turn (p : Partition × KeyTable) (slot : KeySlot) :
    Grows p (KeyTable.turn Partition.service p slot) := by
  have hext := Partition.keeps_deriveKey slot.keyId slot.label slot.usage p.1
  unfold KeyTable.turn
  split_ifs
  · exact refl_of Grows p
  · dsimp only
    split
    · next hresult =>
      -- the only place where a slot comes to have a key
      have hholds := Partition.holds_of_deriveKey (Action.returns_of_result hresult)
      refine ⟨hext, fun other hother => ?_⟩
      rcases KeyTable.hasKey_of_hasKey_set hother with rfl | hother
      · exact .inr hholds
      · exact .inl hother
    · exact ⟨hext, fun _ hkey => .inl hkey⟩

lemma keeps_silent {σ α : Type} {R : σ → σ → Prop} [IsPreorder σ R] {step : Action σ α}
    (h : step.Keeps R) : (silent step).Keeps R :=
  Action.keeps_bind h fun _ => Action.keeps_pure ()

lemma keeps_onService {α : Type} {step : Action Partition α} (h : step.Keeps Extends) :
    (DeviceState.onService step).Keeps StateGrows :=
  Action.keeps_within h fun _ _ hext => ⟨hext, fun _ hkey => .inl hkey⟩

lemma keeps_onBuffer {α : Type} {buffer : Bytes} {step : Action (Partition × Bytes) α}
    (h : step.Keeps (OnFst Extends)) : (DeviceState.onBuffer buffer step).Keeps StateGrows :=
  fun d => ⟨h (d.service, buffer), fun _ hkey => .inl hkey⟩

lemma keeps_onTable {α : Type} {step : Action KeyTable α} (h : step.Keeps KeyTable.NoNewKeys) :
    (DeviceState.onTable step).Keeps StateGrows :=
  Action.keeps_within h fun d _ hold => ⟨refl_of Extends d.service, fun slot hkey =>
    .inl (hold slot hkey)⟩

lemma keeps_exportKey (id : KeyId) : (Partition.service.exportKey id).Keeps Extends :=
  Partition.keeps_of_eq (Partition.keeps_exportKey id)

lemma keeps_sign (id : KeyId) (message : Bytes) :
    (Partition.service.sign id message).Keeps Extends :=
  Partition.keeps_of_eq (Partition.keeps_sign id message)

lemma keeps_encodeValue (id : KeyId) (value : Single) (format : EncodeFormat) :
    (Partition.service.encodeValue id value format).Keeps Extends :=
  Partition.keeps_of_eq (Partition.keeps_encodeValue id value format)

section Operations

variable (settings : Settings)

lemma keeps_publicKey (id : KeyId) : ((emulated settings).publicKey id).Keeps StateGrows :=
  Action.keeps_bind Action.keeps_get fun d =>
    keeps_onService (KeyTable.keeps_publicKey keeps_exportKey d.table id)

lemma keeps_uuid : (emulated settings).uuid.Keeps StateGrows :=
  keeps_onService Partition.keeps_deviceUuid

lemma keeps_generateRequest (id : KeyId) (format : RequestFormat) :
    ((emulated settings).generateRequest id format).Keeps StateGrows := by
  refine Action.keeps_bind (keeps_uuid settings) fun uuid => ?_
  refine Action.keeps_bind Action.keeps_get fun d => ?_
  exact Action.keeps_within (CertRequest.keeps_generate keeps_exportKey keeps_sign d.table _ _ id
    uuid format) fun _ _ hext => ⟨hext, fun _ hkey => .inl hkey⟩

lemma keeps_waitForRecord : (emulated settings).waitForRecord.Keeps StateGrows := by
  have hkeep : ∀ {α : Type} (step : Action HandOver α),
      (DeviceState.onHandOver (σ := Partition) step).Keeps StateGrows := fun _ d =>
    refl_of Grows (d.service, d.table)
  refine Action.keeps_bind (hkeep _) fun waited => ?_
  cases waited with
  | ready => exact Action.keeps_bind (hkeep _) fun _ => Action.keeps_pure _
  | gaveUp => exact Action.keeps_fail _
  | blocked => exact Action.keeps_pure _

/-- Every operation keeps the invariant, whether it is done or fails. -/
lemma keeps_operation (operation : Operation) : (operation.run settings).Keeps StateGrows := by
  cases operation with
  | call c => exact keeps_onService (keeps_silent (Partition.keeps_call c))
  | provisionElsewhere =>
    exact keeps_onService (keeps_silent (Action.keeps_within (KeyTable.keeps_provision grows_turn)
      fun _ _ h => h.1))
  | init =>
    refine keeps_silent (Action.keeps_bind ?_ fun ready => ?_)
    · exact Action.keeps_within (KeyTable.keeps_provision grows_turn) fun _ _ h => h
    · exact Action.keeps_bind (Action.keeps_log _ _ _) fun _ => Action.keeps_pure _
  | recordCertificate id => exact keeps_onTable (KeyTable.keeps_recordCertificate id)
  | applyResponse octets =>
    exact Action.keeps_within (CaExchange.keeps_apply octets) fun d _ hold =>
      ⟨refl_of Extends d.service, fun slot hkey => .inl (hold slot hkey)⟩
  | uuid => exact keeps_silent (keeps_uuid settings)
  | publicKey id => exact keeps_silent (keeps_publicKey settings id)
  | generateRequest id format => exact keeps_silent (keeps_generateRequest settings id format)
  | encodeValue value format =>
    refine keeps_silent (Action.keeps_bind ?_ fun result => ?_)
    · exact keeps_onBuffer (SignedValue.keeps_encodeInto keeps_encodeValue _ value format)
    · exact Action.keeps_bind (Action.keeps_ofExcept _) fun _ => Action.keeps_pure _
  | encodeInto id value format buffer =>
    exact keeps_silent (keeps_onBuffer
      (SignedValue.keeps_encodeInto keeps_encodeValue id value format))
  | inferInto model x format buffer =>
    exact keeps_silent (keeps_onBuffer
      (SineModel.keeps_inferInto keeps_encodeValue model x format))
  | verify id message =>
    exact keeps_silent (Action.keeps_bind (keeps_publicKey settings id) fun _ =>
      Action.keeps_ofExcept _)
  | waitForRecord => exact keeps_silent (keeps_waitForRecord settings)

end Operations

/-! ## What a run keeps -/

/-- A run from any state keeps the invariant. -/
lemma grows_run (settings : Settings) : ∀ (operations : List Operation) (d : DeviceState Partition),
    StateGrows d (operations.foldl (fun d operation => ((operation.run settings).run d).state) d)
  | [], d => refl_of StateGrows d
  | operation :: rest, d =>
      trans_of StateGrows (keeps_operation settings operation d) (grows_run settings rest _)

/-! ## The keys of a device -/

/-- A public key is returned for a slot that has a key, while the partition can be reached. -/
lemma returns_publicKey {settings : Settings} {id : KeyId} {raw : Bytes}
    {d d' : DeviceState Partition} :
    ((emulated settings).publicKey id).Returns d raw d' ↔
      d' = d ∧ d.service.online = true ∧
        (∃ slot, KeyTable.slot id = .ok slot ∧ d.table.hasKey slot = true) ∧
        ∃ stored, d.service.key? id = some stored ∧ raw = stored.privateKey.point.encode := by
  constructor
  · intro h
    obtain ⟨_, _, hget, h⟩ := Action.returns_bind.1 h
    obtain ⟨rfl, rfl⟩ := Action.returns_get.1 hget
    obtain ⟨s, hfetch, rfl⟩ := Action.returns_within.1 h
    obtain ⟨hslot, hexport, -⟩ := KeyTable.returns_publicKey.1 hfetch
    obtain ⟨honline, rfl, hstored⟩ := Partition.returns_exportKey.1 hexport
    exact ⟨rfl, honline, hslot, hstored⟩
  · rintro ⟨rfl, honline, hslot, stored, hstored, rfl⟩
    refine Action.returns_bind.2 ⟨d', d', Action.returns_get.2 ⟨rfl, rfl⟩, ?_⟩
    refine Action.returns_within.2 ⟨d'.service, KeyTable.returns_publicKey.2 ⟨hslot, ?_, ?_⟩, rfl⟩
    · exact Partition.returns_exportKey.2 ⟨honline, rfl, stored, hstored, rfl⟩
    · exact stored.privateKey.encode_point.1

/-- The suffix that a device derives under: the one that is set, or else the partition's own. -/
def effectiveSuffix (settings : Settings) (partition : Partition) : String :=
  if settings.labelSuffix.isEmpty then partition.labelSuffix else settings.labelSuffix

/-- The private key of a slot as a hardware key and a suffix determine it: sixteen octets derived
for the high half, and sixteen for the low half. -/
def slotScalar (hardwareKey : Bytes) (suffix : String) (slot : KeySlot) : Bytes :=
  Hkdf.derive Partition.salt hardwareKey
      (Bytes.ofText (slot.label ++ "_EC_PRIV_KEY_HI" ++ suffix)) 16 ++
    Hkdf.derive Partition.salt hardwareKey
      (Bytes.ofText (slot.label ++ "_EC_PRIV_KEY_LO" ++ suffix)) 16

lemma derivedScalar_eq_slotScalar (s : Partition) (slot : KeySlot) :
    s.derivedScalar slot.label = slotScalar s.hardwareKey s.labelSuffix slot :=
  rfl

section History

variable {settings : Settings} {partition : Partition} {operations : List Operation}

/-- A device starts without keys, with the hardware key of the partition and its own suffix. -/
lemma start_eq (settings : Settings) (partition : Partition) :
    let d := (emulated settings).start partition
    d.table = KeyTable.empty ∧ d.service.hardwareKey = partition.hardwareKey ∧
      d.service.labelSuffix = effectiveSuffix settings partition := by
  by_cases hown : settings.labelSuffix.isEmpty = true
  · have hstart : (emulated settings).start partition = ⟨partition, KeyTable.empty, none⟩ := by
      rw [start, emulated, if_pos hown]
    rw [hstart, effectiveSuffix, if_pos hown]
    exact ⟨rfl, rfl, rfl⟩
  · have hstart : (emulated settings).start partition =
        ⟨partition.setLabelSuffix settings.labelSuffix, KeyTable.empty, none⟩ := by
      rw [start, emulated, if_neg hown]
      rfl
    rw [hstart, effectiveSuffix, if_neg hown]
    exact ⟨rfl, rfl, rfl⟩

lemma derivedScalar_history (slot : KeySlot) :
    (history settings partition operations).service.derivedScalar slot.label =
      slotScalar partition.hardwareKey (effectiveSuffix settings partition) slot := by
  obtain ⟨hextends, -⟩ := grows_run settings operations ((emulated settings).start partition)
  obtain ⟨-, hkey, hsuffix⟩ := start_eq settings partition
  rw [derivedScalar_eq_slotScalar, ← hkey, ← hsuffix, ← hextends.hardwareKey,
    ← hextends.labelSuffix]
  rfl

lemma holds_history {slot : KeySlot}
    (h : (history settings partition operations).table.hasKey slot = true) :
    (history settings partition operations).service.Holds slot := by
  obtain ⟨-, hnew⟩ := grows_run settings operations ((emulated settings).start partition)
  rcases hnew slot h with hbefore | hholds
  -- the table starts without keys
  · rw [(start_eq settings partition).1] at hbefore
    exact absurd hbefore (by simp [KeyTable.hasKey, KeyTable.empty])
  · exact hholds

/-- Where a slot has a key, its private key is the one derived for it. -/
lemma key?_history {slot : KeySlot}
    (h : (history settings partition operations).table.hasKey slot = true) :
    ∃ key : Ecdsa.PrivateKey, Ecdsa.scalarOctets key.scalar =
        slotScalar partition.hardwareKey (effectiveSuffix settings partition) slot ∧
      (history settings partition operations).service.key? slot.keyId =
        some ⟨key, slot.usage⟩ := by
  obtain ⟨⟨key, usage⟩, hstored, husage, hscalar⟩ := holds_history h
  rw [derivedScalar_history] at hscalar
  obtain rfl : usage = slot.usage := husage
  exact ⟨key, hscalar, hstored⟩

/-- A public key that is returned is that of the slot's private key. -/
lemma returns_publicKey_history {id : KeyId} {raw : Bytes} {d : DeviceState Partition}
    (h : ((emulated settings).publicKey id).Returns (history settings partition operations) raw d) :
    ∃ (slot : KeySlot) (key : Ecdsa.PrivateKey), KeyTable.slot id = .ok slot ∧
      Ecdsa.scalarOctets key.scalar =
        slotScalar partition.hardwareKey (effectiveSuffix settings partition) slot ∧
      raw = key.point.encode := by
  obtain ⟨-, -, ⟨slot, hslot, hkey⟩, stored, hstored, hraw⟩ := returns_publicKey.1 h
  obtain ⟨key, hscalar, hheld⟩ := key?_history hkey
  rw [KeyTable.keyId_of_slot hslot] at hheld
  obtain rfl : stored = ⟨key, slot.usage⟩ := Option.some.inj (hstored.symm.trans hheld)
  exact ⟨slot, key, hslot, hscalar, hraw⟩

end History

/-! ## A device whose hardware key is all ones -/

lemma hasKey_history_init {settings : Settings} {partition : Partition} {slot : KeySlot}
    {key : Ecdsa.PrivateKey} (h : ((emulated settings).start partition).service.CanHold slot key) :
    (history settings partition [.init]).table.hasKey slot = true ∧
      (history settings partition [.init]).service.CanHold slot key := by
  have hinit := returns_init (emulated settings) ((emulated settings).start partition)
  have hstate : history settings partition [.init] =
      ((emulated settings).init.run ((emulated settings).start partition)).state := by
    have hsilent : (silent (emulated settings).init).Returns _ () _ :=
      Action.returns_bind.2 ⟨_, _, hinit, Action.returns_pure.2 ⟨rfl, rfl⟩⟩
    exact hsilent.2.trans hinit.2.symm
  rw [hstate]
  exact init_of_canHold h

lemma exists_publicKey_init {settings : Settings} {partition : Partition} {slot : KeySlot}
    {key : Ecdsa.PrivateKey} (h : ((emulated settings).start partition).service.CanHold slot key) :
    ∃ raw, ((emulated settings).publicKey slot.keyId).Returns (history settings partition [.init])
      raw (history settings partition [.init]) := by
  obtain ⟨hkey, hhold⟩ := hasKey_history_init h
  obtain ⟨stored, -, hstored⟩ := key?_history hkey
  refine ⟨stored.point.encode, returns_publicKey.2 ⟨rfl, hhold.online, ?_, _, hstored, rfl⟩⟩
  exact ⟨slot, KeyTable.slot_keyId slot, hkey⟩

/-- The signing key that a device derives from the hardware key `ones` under the suffix `-lab`. -/
def onesKey : Ecdsa.PrivateKey where
  scalar :=
    ⟨110351537619278769294268413965767179807824577702105898457990870029622456665871, by decide⟩
  ne_zero := by decide

set_option maxRecDepth 100000 in
lemma slotScalar_ones :
    slotScalar ones "-lab" .coseSign = Ecdsa.scalarOctets onesKey.scalar := by
  simp only [slotScalar, Hkdf.derive, Hkdf.blocks, Hmac.mac, Sha256.hash_eq]
  decide +kernel

/-- On a partition of this hardware key without keys, the signing key can be stored. -/
lemma canHold_ones {s : Partition} (hkey : s.hardwareKey = ones) (hsuffix : s.labelSuffix = "-lab")
    (honline : s.online = true) (hempty : s.keys = []) : s.CanHold .coseSign onesKey where
  online := honline
  derives := by
    rw [derivedScalar_eq_slotScalar, hkey, hsuffix, slotScalar_ones]
    exact Ecdsa.PrivateKey.ofOctets?_eq_some_iff.2 rfl
  place := by
    left
    rw [Partition.key?, hempty]
    rfl

/-! ## The main result -/

/-- **A slot that has a key has its own.**  Whatever was done with the partition before and is done
to the device and to the partition afterwards, each slot whose status says that it has a key has in
the partition, under its identifier, the key derived for it, with its own uses.  So a public key
depends on the hardware key and the suffix only. -/
theorem slots_hold_their_keys :
    (∀ (settings : Settings) (partition : Partition) (operations : List Operation) (slot : KeySlot),
      (history settings partition operations).table.status slot ≠ .notProvisioned →
        ∃ stored,
          (history settings partition operations).service.key? slot.keyId = some stored ∧
          stored.usage = slot.usage ∧
          Ecdsa.scalarOctets stored.privateKey.scalar =
            slotScalar partition.hardwareKey (effectiveSuffix settings partition) slot) ∧
    (∀ (settings settings' : Settings) (partition partition' : Partition)
      (operations operations' : List Operation) (id : KeyId) (raw raw' : Bytes)
      (d d' : DeviceState Partition),
      partition.hardwareKey = partition'.hardwareKey →
      effectiveSuffix settings partition = effectiveSuffix settings' partition' →
      ((emulated settings).publicKey id).Returns (history settings partition operations) raw d →
      ((emulated settings').publicKey id).Returns (history settings' partition' operations')
        raw' d' →
        raw = raw' ∧ raw.length = 65) := by
  constructor
  · intro settings partition operations slot hstatus
    obtain ⟨key, hscalar, hstored⟩ := key?_history (decide_eq_true hstatus)
    exact ⟨_, hstored, rfl, hscalar⟩
  · intro settings settings' partition partition' operations operations' id raw raw' d d' hkey
      hsuffix h h'
    obtain ⟨slot, key, hslot, hscalar, rfl⟩ := returns_publicKey_history h
    obtain ⟨slot', key', hslot', hscalar', rfl⟩ := returns_publicKey_history h'
    obtain rfl : slot = slot' := Except.ok.inj (hslot.symm.trans hslot')
    rw [hkey, hsuffix, ← hscalar'] at hscalar
    have hsame : key = key' := Ecdsa.PrivateKey.eq_of_scalarOctets hscalar
    rw [hsame]
    exact ⟨rfl, key'.encode_point.2⟩

/-- Two devices of one hardware key, one with the suffix in its partition, and one with it in its
settings, hold the same signing key and return the same public key. -/
theorem slots_hold_their_keys_ones :
    let partition : Partition := { hardwareKey := ones, labelSuffix := "-lab" }
    let partition' : Partition := { hardwareKey := ones }
    let settings' : Settings := { labelSuffix := "-lab" }
    (∃ stored, (history {} partition [.init]).service.key? KeySlot.coseSign.keyId = some stored ∧
      stored.usage = KeySlot.coseSign.usage ∧
      Ecdsa.scalarOctets stored.privateKey.scalar = Ecdsa.scalarOctets onesKey.scalar) ∧
    ∃ raw d d', raw.length = 65 ∧
      ((emulated {}).publicKey KeySlot.coseSign.keyId).Returns
        (history {} partition [.init]) raw d ∧
      ((emulated settings').publicKey KeySlot.coseSign.keyId).Returns
        (history settings' partition' [.init]) raw d' := by
  intro partition partition' settings'
  have hhold : ((emulated {}).start partition).service.CanHold .coseSign onesKey :=
    canHold_ones rfl rfl rfl rfl
  have hhold' : ((emulated settings').start partition').service.CanHold .coseSign onesKey :=
    canHold_ones rfl rfl rfl rfl
  have hkey := (hasKey_history_init hhold).1
  constructor
  · rw [← slotScalar_ones]
    exact slots_hold_their_keys.1 {} partition [.init] .coseSign (of_decide_eq_true hkey)
  · obtain ⟨raw, hraw⟩ := exists_publicKey_init hhold
    obtain ⟨raw', hraw'⟩ := exists_publicKey_init hhold'
    obtain ⟨rfl, hlength⟩ :=
      slots_hold_their_keys.2 {} settings' partition partition' _ _ _ _ _ _ _ rfl rfl hraw hraw'
    exact ⟨raw, _, _, hlength, hraw, hraw'⟩

end Device

end DeviceIdentity

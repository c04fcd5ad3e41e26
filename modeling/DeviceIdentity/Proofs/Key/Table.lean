import Mathlib.Tactic.SplitIfs
import DeviceIdentity.Key.Provision
import DeviceIdentity.Proofs.Action

/-!
# What is done with the key table

The key table says which slots have a key.  A public key is only asked for when its slot has one,
and a certificate is only recorded for such a slot.

* `returns_publicKey` — a public key comes from the service, which is asked once.
* `KeyTable.turn` — the state after the turn of one slot; `returns_provision` — provisioning is one
  turn for each slot; `keeps_provision` — what each turn keeps, all of them keep.
* `KeyTable.NoNewKeys` — no slot comes to have a key; `keeps_recordCertificate` — recording a
  certificate keeps this.
-/

namespace DeviceIdentity

namespace KeyTable

open DeviceIdentity.Action (Fails Keeps Returns)

/-! ## Slots -/

lemma keyId_of_slot {id : KeyId} {found : KeySlot} (h : slot id = .ok found) :
    found.keyId = id := by
  unfold slot at h
  split at h
  · next other hother =>
    obtain rfl := Except.ok.inj h
    unfold KeySlot.ofKeyId? at hother
    have hid := List.find?_some hother
    exact of_decide_eq_true hid
  · cases h

lemma eq_of_slot_eq_error {id : KeyId} {e : Failure} (h : slot id = .error e) :
    e = .unknownKeyId := by
  unfold slot at h
  split at h
  · cases h
  · exact (Except.error.inj h).symm

lemma slot_keyId (s : KeySlot) : slot s.keyId = .ok s := by
  rw [slot, KeySlot.ofKeyId?_keyId]

/-- A table is the statuses of its slots. -/
lemma ext_status {table table' : KeyTable} (h : ∀ slot, table.status slot = table'.status slot) :
    table = table' :=
  congrArg KeyTable.mk (funext h)

/-- Slots other than the one that is set have a key as before. -/
lemma hasKey_of_hasKey_set {table : KeyTable} {slot other : KeySlot} {status : KeyStatus}
    (h : (table.set slot status).hasKey other = true) :
    other = slot ∨ table.hasKey other = true := by
  by_cases hslot : other = slot
  · exact .inl hslot
  · right
    rwa [hasKey, status_set_of_ne table status hslot] at h

lemma hasKey_set_of_ne {table : KeyTable} {slot other : KeySlot} {status : KeyStatus}
    (h : slot ≠ other) : (table.set other status).hasKey slot = table.hasKey slot := by
  rw [hasKey, hasKey, status_set_of_ne table status h]

/-- A slot that has a key keeps it when any slot is set to a status that has one. -/
lemma hasKey_set_of_hasKey {table : KeyTable} {slot other : KeySlot} {status : KeyStatus}
    (hstatus : status ≠ .notProvisioned) (h : other = slot ∨ table.hasKey other = true) :
    (table.set slot status).hasKey other = true := by
  by_cases hslot : other = slot
  · rw [hslot, hasKey, status_set_self]
    exact decide_eq_true hstatus
  · rw [hasKey, status_set_of_ne table status hslot]
    exact h.resolve_left hslot

/-! ## Public keys -/

section PublicKey

variable {σ : Type} {service : SecureService σ} {table : KeyTable} {id : KeyId}

/-- A public key comes from the service, which is asked once. -/
lemma returns_publicKey {s s' : σ} {raw : Bytes} :
    (table.publicKey service id).Returns s raw s' ↔
      (∃ found, slot id = .ok found ∧ table.hasKey found = true) ∧
        (service.exportKey id).Returns s raw s' ∧ raw.head? = some 0x04 := by
  constructor
  · intro h
    obtain ⟨found, _, hfind, h⟩ := Action.returns_bind.1 h
    obtain ⟨hslot, rfl⟩ := Action.returns_ofExcept.1 hfind
    split_ifs at h with hkey
    · obtain ⟨octets, _, hexport, h⟩ := Action.returns_bind.1 h
      split_ifs at h with hlead
      · obtain ⟨rfl, rfl⟩ := Action.returns_pure.1 h
        exact ⟨⟨found, hslot, hkey⟩, Action.returns_mapFailure.1 hexport, hlead⟩
      · exact (Action.returns_fail.1 h).elim
    · exact (Action.returns_fail.1 h).elim
  · rintro ⟨⟨found, hslot, hkey⟩, hexport, hlead⟩
    refine Action.returns_bind.2 ⟨found, s, Action.returns_ofExcept.2 ⟨hslot, rfl⟩, ?_⟩
    rw [if_pos hkey]
    refine Action.returns_bind.2 ⟨raw, s', Action.returns_mapFailure.2 hexport, ?_⟩
    rw [if_pos hlead]
    exact Action.returns_pure.2 ⟨rfl, rfl⟩

lemma keeps_publicKey {R : σ → σ → Prop} [IsPreorder σ R]
    (hexport : ∀ id, (service.exportKey id).Keeps R) (table : KeyTable) (id : KeyId) :
    (table.publicKey service id).Keeps R := by
  refine Action.keeps_bind (Action.keeps_ofExcept _) fun found => ?_
  split_ifs
  · refine Action.keeps_bind (Action.keeps_mapFailure _ (hexport id)) fun raw => ?_
    split_ifs
    · exact Action.keeps_pure _
    · exact Action.keeps_fail _
  · exact Action.keeps_fail _

end PublicKey

/-! ## Keys for the slots -/

section Provision

variable {σ : Type} {service : SecureService σ}

/-- The state after the turn of a slot: a slot without a key is given one if the service answers
that the key is derived and stored. -/
def turn (service : SecureService σ) (p : σ × KeyTable) (slot : KeySlot) : σ × KeyTable :=
  if p.2.hasKey slot then p
  else
    let outcome := (service.deriveKey slot.keyId slot.label slot.usage).run p.1
    match outcome.result with
    | .ok () => (outcome.state, p.2.set slot .keyGenerated)
    | .error _ => (outcome.state, p.2)

lemma turn_of_hasKey {p : σ × KeyTable} {slot : KeySlot} (hkey : p.2.hasKey slot = true) :
    turn service p slot = p :=
  if_pos hkey

lemma turn_of_returns {p : σ × KeyTable} {slot : KeySlot} {s : σ}
    (hkey : ¬p.2.hasKey slot = true)
    (h : (service.deriveKey slot.keyId slot.label slot.usage).Returns p.1 () s) :
    turn service p slot = (s, p.2.set slot .keyGenerated) := by
  simp only [turn, if_neg hkey, h.1, h.2]

lemma turn_of_fails {p : σ × KeyTable} {slot : KeySlot} {s : σ} {e : Failure}
    (hkey : ¬p.2.hasKey slot = true)
    (h : (service.deriveKey slot.keyId slot.label slot.usage).Fails p.1 e s) :
    turn service p slot = (s, p.2) := by
  simp only [turn, if_neg hkey, h.1, h.2]

/-- A turn never fails, whatever the service answers. -/
lemma returns_provisionSlot (service : SecureService σ) (p : σ × KeyTable) (slot : KeySlot) :
    (provisionSlot service slot).Returns p () (turn service p slot) := by
  refine Action.returns_bind.2 ⟨p, p, Action.returns_get.2 ⟨rfl, rfl⟩, ?_⟩
  unfold turn
  split_ifs
  · exact Action.returns_log.2 rfl
  · refine Action.returns_bind.2 ⟨_, _, Action.returns_attempt.2 ⟨rfl, rfl⟩, ?_⟩
    rw [Action.onFst, Action.run_within]
    dsimp only
    cases ((service.deriveKey slot.keyId slot.label slot.usage).run p.1).result with
    | ok u =>
      exact Action.returns_bind.2 ⟨(), _, Action.returns_modify.2 rfl, Action.returns_log.2 rfl⟩
    | error failure => exact Action.returns_log.2 rfl

lemma returns_turns (service : SecureService σ) : ∀ (slots : List KeySlot) (p : σ × KeyTable),
    (slots.forM (provisionSlot service)).Returns p () (slots.foldl (turn service) p)
  | [], _ => Action.returns_pure.2 ⟨rfl, rfl⟩
  | slot :: slots, p =>
      Action.returns_bind.2
        ⟨(), _, returns_provisionSlot service p slot, returns_turns service slots _⟩

lemma returns_provision (service : SecureService σ) (p : σ × KeyTable) :
    let p' := KeySlot.all.foldl (turn service) p
    (provision service).Returns p p'.2.ready p' := by
  refine Action.returns_bind.2 ⟨(), _, returns_turns service KeySlot.all p, ?_⟩
  refine Action.returns_bind.2 ⟨_, _, Action.returns_get.2 ⟨rfl, rfl⟩, ?_⟩
  exact Action.returns_pure.2 ⟨rfl, rfl⟩

section Turns

variable {R : σ × KeyTable → σ × KeyTable → Prop} [IsPreorder (σ × KeyTable) R]

lemma rel_turns (h : ∀ p slot, R p (turn service p slot)) (slots : List KeySlot)
    (p : σ × KeyTable) : R p (slots.foldl (turn service) p) := by
  induction slots generalizing p with
  | nil => exact refl_of R p
  | cons slot slots ih => exact trans_of R (h p slot) (ih _)

lemma keeps_provision (h : ∀ p slot, R p (turn service p slot)) : (provision service).Keeps R := by
  intro p
  rw [(returns_provision service p).2]
  exact rel_turns h KeySlot.all p

end Turns

end Provision

/-! ## Certificates -/

/-- Every slot that has a key afterwards had one before. -/
def NoNewKeys (table table' : KeyTable) : Prop :=
  ∀ slot, table'.hasKey slot = true → table.hasKey slot = true

instance : IsPreorder KeyTable NoNewKeys where
  refl _ _ h := h
  trans _ _ _ h h' slot hkey := h slot (h' slot hkey)

lemma returns_recordCertificate {table : KeyTable} {id : KeyId} {found : KeySlot}
    (hslot : slot id = .ok found) (hkey : table.hasKey found = true) :
    (recordCertificate id).Returns table () (table.set found .certificateGenerated) := by
  refine Action.returns_bind.2 ⟨found, table, Action.returns_ofExcept.2 ⟨hslot, rfl⟩, ?_⟩
  refine Action.returns_bind.2 ⟨table, table, Action.returns_get.2 ⟨rfl, rfl⟩, ?_⟩
  rw [if_pos hkey]
  exact Action.returns_bind.2 ⟨(), _, Action.returns_modify.2 rfl, Action.returns_log.2 rfl⟩

lemma fails_recordCertificate {table : KeyTable} {id : KeyId} {found : KeySlot}
    (hslot : slot id = .ok found) (hkey : ¬table.hasKey found = true) :
    (recordCertificate id).Fails table
      (.invalidInput (found.label ++ " has no key to certify")) table := by
  refine Action.fails_bind.2 (.inr ⟨found, table, Action.returns_ofExcept.2 ⟨hslot, rfl⟩, ?_⟩)
  refine Action.fails_bind.2 (.inr ⟨table, table, Action.returns_get.2 ⟨rfl, rfl⟩, ?_⟩)
  rw [if_neg hkey]
  exact Action.fails_fail.2 ⟨rfl, rfl⟩

lemma fails_recordCertificate_of_slot {table : KeyTable} {id : KeyId} {e : Failure}
    (hslot : slot id = .error e) : (recordCertificate id).Fails table e table :=
  Action.fails_bind.2 (.inl ⟨hslot, rfl⟩)

/-- Whether it is recorded or refused, a certificate leaves the same slots with a key. -/
lemma hasKey_recordCertificate (table : KeyTable) (id : KeyId) (other : KeySlot) :
    ((recordCertificate id).run table).state.hasKey other = table.hasKey other := by
  cases hslot : slot id with
  | error e => rw [(fails_recordCertificate_of_slot hslot).2]
  | ok found =>
    by_cases hkey : table.hasKey found = true
    · rw [(returns_recordCertificate hslot hkey).2]
      by_cases hother : other = found
      · rw [hother, hkey, hasKey, status_set_self]
        rfl
      · exact hasKey_set_of_ne hother
    · rw [(fails_recordCertificate hslot hkey).2]

/-- A certificate is recorded only for a slot that has a key. -/
lemma keeps_recordCertificate (id : KeyId) : (recordCertificate id).Keeps NoNewKeys := by
  intro table
  refine Action.rel_bind (Action.keeps_ofExcept _ table) fun {found table'} hslot => ?_
  obtain ⟨-, rfl⟩ := Action.returns_ofExcept.1 hslot
  refine Action.rel_bind (Action.keeps_get table) fun {current table'} hget => ?_
  obtain ⟨rfl, rfl⟩ := Action.returns_get.1 hget
  split_ifs with hkey
  · refine Action.rel_bind ?_ fun _ => Action.keeps_log _ _ _ _
    intro other hother
    rcases hasKey_of_hasKey_set hother with rfl | hother
    · exact hkey
    · exact hother
  · exact Action.keeps_fail _ table

end KeyTable

end DeviceIdentity

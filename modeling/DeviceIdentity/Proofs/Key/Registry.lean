import DeviceIdentity.Proofs.Device.Provisioning
import DeviceIdentity.Proofs.Partition.WriteOnce

/-!
# A table on a partition that others use

A table of keys is provisioned on a partition, and nothing keeps others from using the same
partition before, between and after: they may store keys under the identifiers of the slots, take
the partition out of reach, or give it another label suffix.  The table knows nothing of this.
Still a slot that has a key in the table has one in the partition that may be used as the slot's key
should be, because a slot is only given a key when the partition has taken or confirmed it, and what
the partition holds stays.

* `KeyTable.Event` — what can happen to the table and the partition; `KeyTable.history` — where the
  events lead, from a table without keys.
* `KeyTable.Backed` — the slots with a key have one in the partition.
* `backed_turn`, `backed_step` — each step keeps this; **`backed_history`** — so it always holds.
-/

namespace DeviceIdentity

namespace KeyTable

/-- What can happen to a table and the partition of its keys. -/
inductive Event where
  | provision
  /-- The partition is used or set up anew, by anybody. -/
  | operate (operation : Partition.Operation)
  | recordCertificate (id : KeyId)

/-- The partition and the table after an event. -/
def Event.step (p : Partition × KeyTable) : Event → Partition × KeyTable
  | provision => ((KeyTable.provision Partition.service).run p).state
  | operate operation => ((operation.run.run p.1).state, p.2)
  | recordCertificate id => (p.1, ((KeyTable.recordCertificate id).run p.2).state)

/-- The partition and the table after events that start with a table without keys. -/
def history (start : Partition) (events : List Event) : Partition × KeyTable :=
  events.foldl Event.step (start, KeyTable.empty)

/-- Each slot that has a key in the table has one in the partition, with the slot's uses. -/
def Backed (p : Partition × KeyTable) : Prop :=
  ∀ slot, p.2.hasKey slot = true → ∃ key, p.1.key? slot.keyId = some ⟨key, slot.usage⟩

variable {p : Partition × KeyTable}

/-- What the partition holds stays, so only slots that come to have a key are of interest. -/
lemma Backed.mono {p' : Partition × KeyTable} (h : Backed p)
    (hkeys : ∀ {id : KeyId} {key : StoredKey}, p.1.key? id = some key → p'.1.key? id = some key)
    (hnew : ∀ slot, p'.2.hasKey slot = true →
      p.2.hasKey slot = true ∨ ∃ key, p'.1.key? slot.keyId = some ⟨key, slot.usage⟩) :
    Backed p' := by
  intro slot hslot
  rcases hnew slot hslot with hold | hheld
  · obtain ⟨key, hkey⟩ := h slot hold
    exact ⟨key, hkeys hkey⟩
  · exact hheld

lemma backed_turn (h : Backed p) (slot : KeySlot) : Backed (turn Partition.service p slot) := by
  have hkeys {id : KeyId} {key : StoredKey} (hkey : p.1.key? id = some key) :=
    (Partition.keeps_deriveKey slot.keyId slot.label slot.usage p.1).key? hkey
  by_cases hslot : p.2.hasKey slot = true
  · rw [turn_of_hasKey hslot]
    exact h
  rcases (Partition.service.deriveKey slot.keyId slot.label slot.usage).returns_or_fails p.1 with
    ⟨u, hderive⟩ | ⟨e, hderive⟩
  · rw [turn_of_returns hslot hderive]
    refine h.mono hkeys fun other hother => ?_
    rcases hasKey_of_hasKey_set hother with rfl | hold
    · -- the partition has stored the key just now, or confirmed it
      obtain ⟨-, key, -, hstored⟩ :=
        Partition.returns_importKey.1 (Partition.returns_deriveKey.1 hderive)
      refine .inr ⟨key, ?_⟩
      rcases hstored with ⟨-, hstate⟩ | ⟨hsame, hstate⟩
      · rw [hstate]
        exact Partition.key?_store_self p.1 other.keyId _
      · rw [hstate]
        exact hsame
    · exact .inl hold
  · rw [turn_of_fails hslot hderive]
    exact h.mono hkeys fun _ hold => .inl hold

lemma backed_turns (h : Backed p) (slots : List KeySlot) :
    Backed (slots.foldl (turn Partition.service) p) := by
  induction slots generalizing p with
  | nil => exact h
  | cons slot slots ih => exact ih (backed_turn h slot)

lemma backed_step (h : Backed p) (event : Event) : Backed (event.step p) := by
  cases event with
  | provision =>
    rw [Event.step, (returns_provision Partition.service p).2]
    exact backed_turns h KeySlot.all
  | operate operation => exact h.mono (Partition.key?_run operation) fun _ hold => .inl hold
  | recordCertificate id =>
    refine h.mono (fun hkey => hkey) fun slot hslot => .inl ?_
    rwa [Event.step, hasKey_recordCertificate] at hslot

/-- **A slot with a key has one in the partition**, whatever else is done with the partition. -/
lemma backed_history (start : Partition) (events : List Event) : Backed (history start events) := by
  have hrun : ∀ {p : Partition × KeyTable}, Backed p → Backed (events.foldl Event.step p) := by
    induction events with
    | nil => exact id
    | cons event rest ih => exact fun h => ih (backed_step h event)
  refine hrun fun slot hslot => ?_
  -- the table starts without keys
  exact absurd hslot (by simp [hasKey, KeyTable.empty])

/-- A table that is provisioned gives a slot its key, if the partition can hold it. -/
lemma history_of_canHold {start : Partition} {slot : KeySlot} {key : Ecdsa.PrivateKey}
    (h : start.CanHold slot key) :
    let p := history start [.provision]
    p.1.online = true ∧ p.2.hasKey slot = true ∧
      p.1.key? slot.keyId = some ⟨key, slot.usage⟩ := by
  intro p
  have hp : p = KeySlot.all.foldl (turn Partition.service) (start, KeyTable.empty) :=
    (returns_provision Partition.service (start, KeyTable.empty)).2
  have hslot : p.2.hasKey slot = true := by
    rw [hp]
    exact hasKey_turns (KeySlot.mem_all slot) h
  have hheld : p.1.CanHold slot key := by
    rw [hp]
    exact (rel_turns progress_turn KeySlot.all (start, KeyTable.empty)).1 h
  obtain ⟨stored, hstored⟩ := backed_history start [.provision] slot hslot
  refine ⟨hheld.online, hslot, hheld.place.resolve_left fun hnone => ?_⟩
  cases hnone.symm.trans hstored

end KeyTable

end DeviceIdentity

import DeviceIdentity.Device
import DeviceIdentity.Proofs.Key.Table
import DeviceIdentity.Proofs.Partition.Extension

/-!
# Slots get their keys

A slot is given its key when the partition can be reached, the octets derived for the slot are a
private key, and no other key is in its place.  What is done for the other slots does not stand in
the way, because their identifiers are different.

* `Partition.CanHold` — the key of a slot can be stored.
* `Partition.CanHold.deriveKey` — deriving the key of any slot leaves it so.
* `KeyTable.Progress` — what one turn of the loop over the slots keeps.
* **`Device.init_of_canHold`** — after initialisation, the slot has a key.
-/

namespace DeviceIdentity

open DeviceIdentity.Action (Keeps Returns)

namespace Partition

/-- The key derived for the slot can be stored, or is there already. -/
structure CanHold (s : Partition) (slot : KeySlot) (key : Ecdsa.PrivateKey) : Prop where
  online : s.online = true
  derives : Ecdsa.PrivateKey.ofOctets? (s.derivedScalar slot.label) = some key
  place : s.key? slot.keyId = none ∨ s.key? slot.keyId = some ⟨key, slot.usage⟩

section CanHold

variable {s : Partition} {slot : KeySlot} {key : Ecdsa.PrivateKey}

lemma CanHold.returns_deriveKey (h : s.CanHold slot key) :
    ∃ s', (service.deriveKey slot.keyId slot.label slot.usage).Returns s () s' := by
  rcases h.place with hfree | hsame
  · refine ⟨s.store slot.keyId ⟨key, slot.usage⟩, Partition.returns_deriveKey.2 ?_⟩
    exact returns_importKey.2 ⟨h.online, key, h.derives, .inl ⟨hfree, rfl⟩⟩
  · refine ⟨s, Partition.returns_deriveKey.2 ?_⟩
    exact returns_importKey.2 ⟨h.online, key, h.derives, .inr ⟨hsame, rfl⟩⟩

lemma CanHold.store {other : KeySlot} {stored : Ecdsa.PrivateKey} (h : s.CanHold slot key)
    (hderives : Ecdsa.PrivateKey.ofOctets? (s.derivedScalar other.label) = some stored) :
    (s.store other.keyId ⟨stored, other.usage⟩).CanHold slot key where
  online := h.online
  derives := h.derives
  place := by
    by_cases hslot : slot = other
    · subst hslot
      obtain rfl : stored = key := Option.some.inj (hderives.symm.trans h.derives)
      exact .inr (key?_store_self s slot.keyId _)
    · have hid : slot.keyId ≠ other.keyId := fun hid => hslot (KeySlot.keyId_inj.1 hid)
      rw [key?_store_of_ne s other.keyId _ hid]
      exact h.place

/-- Deriving the key of any slot leaves room for that of the slot. -/
lemma CanHold.deriveKey (h : s.CanHold slot key) (other : KeySlot) :
    ((service.deriveKey other.keyId other.label other.usage).run s).state.CanHold slot key := by
  rcases deriveKey_state s other.keyId other.label other.usage with
    hsame | ⟨stored, hderives, -, hstate⟩
  · rw [hsame]
    exact h
  · rw [hstate]
    exact h.store hderives

end CanHold

end Partition

namespace KeyTable

variable {slot : KeySlot} {key : Ecdsa.PrivateKey}

/-- Room for the key of the slot stays, and so does the key in the table. -/
def Progress (slot : KeySlot) (key : Ecdsa.PrivateKey) (p p' : Partition × KeyTable) : Prop :=
  (p.1.CanHold slot key → p'.1.CanHold slot key) ∧
    (p.2.hasKey slot = true → p'.2.hasKey slot = true)

instance : IsPreorder (Partition × KeyTable) (Progress slot key) where
  refl _ := ⟨id, id⟩
  trans _ _ _ h h' := ⟨fun hold => h'.1 (h.1 hold), fun hkey => h'.2 (h.2 hkey)⟩

lemma progress_turn (p : Partition × KeyTable) (other : KeySlot) :
    Progress slot key p (turn Partition.service p other) := by
  unfold turn
  split_ifs
  · exact refl_of (Progress slot key) p
  · dsimp only
    split
    · exact ⟨fun hold => hold.deriveKey other, fun hkey =>
        hasKey_set_of_hasKey (by decide) (.inr hkey)⟩
    · exact ⟨fun hold => hold.deriveKey other, id⟩

/-- The slot has a key after its own turn, if there is room for the key. -/
lemma hasKey_turn {p : Partition × KeyTable} (h : p.1.CanHold slot key) :
    (turn Partition.service p slot).2.hasKey slot = true := by
  unfold turn
  split_ifs with hkey
  · exact hkey
  · obtain ⟨s', hderive⟩ := h.returns_deriveKey
    simp only [hderive.1]
    exact hasKey_set_of_hasKey (by decide) (.inl rfl)

/-- The slot has a key after the turns of several slots, if its own is among them. -/
lemma hasKey_turns {slots : List KeySlot} {p : Partition × KeyTable} (hmem : slot ∈ slots)
    (h : p.1.CanHold slot key) : (slots.foldl (turn Partition.service) p).2.hasKey slot = true := by
  induction slots generalizing p with
  | nil => cases hmem
  | cons other slots ih =>
    rw [List.foldl_cons]
    rcases List.mem_cons.1 hmem with rfl | hmem
    · have hrest := rel_turns (R := Progress slot key) progress_turn slots
        (turn Partition.service p slot)
      exact hrest.2 (hasKey_turn h)
    · exact ih hmem ((progress_turn p other).1 h)

end KeyTable

namespace Device

/-- A device over the emulated partition. -/
def emulated (settings : Settings) : Device Partition := ⟨Partition.service, settings⟩

lemma returns_init {σ : Type} (device : Device σ) (d : DeviceState σ) :
    let p := KeySlot.all.foldl (KeyTable.turn device.service) (d.service, d.table)
    device.init.Returns d p.2.ready { d with service := p.1, table := p.2 } := by
  intro p
  have hprovision := KeyTable.returns_provision device.service (d.service, d.table)
  refine Action.returns_bind.2 ⟨p.2.ready, _, Action.returns_within.2 ⟨p, hprovision, rfl⟩, ?_⟩
  exact Action.returns_bind.2 ⟨(), _, Action.returns_log.2 rfl, Action.returns_pure.2 ⟨rfl, rfl⟩⟩

/-- **Initialisation gives a slot its key** whenever the key can be stored, and leaves the partition
so that it can be reached. -/
theorem init_of_canHold {settings : Settings} {slot : KeySlot} {key : Ecdsa.PrivateKey}
    {d : DeviceState Partition} (h : d.service.CanHold slot key) :
    ((emulated settings).init.run d).state.table.hasKey slot = true ∧
      ((emulated settings).init.run d).state.service.CanHold slot key := by
  rw [(returns_init (emulated settings) d).2]
  refine ⟨KeyTable.hasKey_turns (KeySlot.mem_all slot) h, ?_⟩
  exact (KeyTable.rel_turns KeyTable.progress_turn KeySlot.all (d.service, d.table)).1 h

end Device

end DeviceIdentity

import DeviceIdentity.Proofs.Key.Table
import DeviceIdentity.Proofs.Partition.Reports
import DeviceIdentity.Proofs.Partition.Run

/-!
# What provisioning says

While the table and the partition are in step, provisioning emits one record for each slot, and the
record is told by the statuses of the slot before and after, and by the reach of the partition.  A
slot without a key in the table has none in the partition either, so no derived key is ever compared
with a stored one.

* `InStep` — the partition holds keys for just the slots that have one in the table.
* `InStep.after_turn` — the turn of a slot keeps this.
* `slotRecord` — the record of a slot.
* **`log_provision`** — provisioning emits the records of the slots, in order.
-/

namespace DeviceIdentity

namespace KeyTable

open DeviceIdentity.Action (Fails Quiet Returns)

/-! ## In step -/

/-- The uses of the key that is stored under an identifier, as the table has it. -/
def usage? (table : KeyTable) (id : KeyId) : Option KeyUsage :=
  (KeySlot.ofKeyId? id).bind fun slot => if table.hasKey slot then some slot.usage else none

lemma usage?_keyId (table : KeyTable) (slot : KeySlot) :
    table.usage? slot.keyId = if table.hasKey slot then some slot.usage else none := by
  rw [usage?, KeySlot.ofKeyId?_keyId]
  rfl

/-- Only which slots have a key counts. -/
lemma usage?_congr {table table' : KeyTable}
    (h : ∀ slot, table.hasKey slot = table'.hasKey slot) : table.usage? = table'.usage? := by
  funext id
  simp only [usage?, h]

/-- The partition holds keys for just the slots that have one in the table, each with the uses of
the slot. -/
def InStep (p : Partition × KeyTable) : Prop :=
  ∀ id : KeyId, (p.1.key? id).map StoredKey.usage = p.2.usage? id

section InStep

variable {p : Partition × KeyTable} {slot other : KeySlot}

lemma InStep.free (h : InStep p) (hkey : ¬p.2.hasKey slot = true) :
    p.1.key? slot.keyId = none := by
  have hslot := h slot.keyId
  rw [usage?_keyId, if_neg hkey] at hslot
  exact Option.map_eq_none_iff.1 hslot

/-- Without any key, the two are in step. -/
lemma inStep_empty {s : Partition} (h : s.keys = []) : InStep (s, empty) := by
  intro id
  rw [Partition.key?, h, usage?]
  cases KeySlot.ofKeyId? id <;> rfl

/-- The key that a slot without one comes to have is the only change. -/
lemma InStep.store (h : InStep p) (key : Ecdsa.PrivateKey) :
    InStep (p.1.store slot.keyId ⟨key, slot.usage⟩, p.2.set slot .keyGenerated) := by
  intro id
  by_cases hid : id = slot.keyId
  · subst hid
    rw [Partition.key?_store_self, usage?_keyId,
      if_pos (hasKey_set_of_hasKey (by decide) (.inl rfl))]
    rfl
  · rw [Partition.key?_store_of_ne _ _ _ hid, h id, usage?, usage?]
    refine Option.bind_congr fun other hother => ?_
    have hne : other ≠ slot := by
      rintro rfl
      exact hid (keyId_of_slot (by rw [KeyTable.slot, hother])).symm
    rw [hasKey_set_of_ne hne]

/-- The turn of a slot without a key: it is stored in the partition and entered in the table, or
nothing happens. -/
lemma InStep.turn_cases (h : InStep p) (hkey : ¬p.2.hasKey slot = true) :
    (∃ key, (Partition.service.deriveKey slot.keyId slot.label slot.usage).Returns p.1 ()
        (p.1.store slot.keyId ⟨key, slot.usage⟩) ∧
      turn Partition.service p slot =
        (p.1.store slot.keyId ⟨key, slot.usage⟩, p.2.set slot .keyGenerated)) ∨
    ∃ e, (Partition.service.deriveKey slot.keyId slot.label slot.usage).Fails p.1 e p.1 ∧
      turn Partition.service p slot = p := by
  rcases (Partition.service.deriveKey slot.keyId slot.label slot.usage).returns_or_fails p.1 with
    ⟨_, hreturns⟩ | ⟨e, hfails⟩
  · obtain ⟨-, key, -, ⟨-, hstate⟩ | ⟨hstored, -⟩⟩ :=
      Partition.returns_importKey.1 (Partition.returns_deriveKey.1 hreturns)
    · rw [hstate] at hreturns
      exact .inl ⟨key, hreturns, turn_of_returns hkey hreturns⟩
    · rw [h.free hkey] at hstored
      cases hstored
  · rw [Partition.allOrNothing_deriveKey _ _ _ hfails] at hfails
    exact .inr ⟨e, hfails, turn_of_fails hkey hfails⟩

lemma InStep.after_turn (h : InStep p) (slot : KeySlot) :
    InStep (turn Partition.service p slot) := by
  by_cases hkey : p.2.hasKey slot = true
  · rw [turn_of_hasKey hkey]
    exact h
  · rcases h.turn_cases hkey with ⟨key, -, hturn⟩ | ⟨e, -, hturn⟩
    · rw [hturn]
      exact h.store key
    · rw [hturn]
      exact h

lemma InStep.online_turn (h : InStep p) (slot : KeySlot) :
    (turn Partition.service p slot).1.online = p.1.online := by
  by_cases hkey : p.2.hasKey slot = true
  · rw [turn_of_hasKey hkey]
  · rcases h.turn_cases hkey with ⟨key, -, hturn⟩ | ⟨e, -, hturn⟩
    · rw [hturn]
      rfl
    · rw [hturn]

lemma hasKey_turn_of_ne {σ : Type} {service : SecureService σ} {p : σ × KeyTable}
    (hne : other ≠ slot) : (turn service p slot).2.hasKey other = p.2.hasKey other := by
  unfold turn
  split_ifs
  · rfl
  · dsimp only
    split
    · exact hasKey_set_of_ne hne
    · rfl

lemma hasKey_turns_of_notMem {σ : Type} {service : SecureService σ} {slots : List KeySlot}
    {p : σ × KeyTable} (h : other ∉ slots) :
    (slots.foldl (turn service) p).2.hasKey other = p.2.hasKey other := by
  induction slots generalizing p with
  | nil => rfl
  | cons slot rest ih =>
    rw [List.mem_cons, not_or] at h
    rw [List.foldl_cons, ih h.2, hasKey_turn_of_ne h.1]

lemma InStep.after_turns (h : InStep p) (slots : List KeySlot) :
    InStep (slots.foldl (turn Partition.service) p) := by
  induction slots generalizing p with
  | nil => exact h
  | cons slot rest ih => exact ih (h.after_turn slot)

lemma InStep.online_turns (h : InStep p) (slots : List KeySlot) :
    (slots.foldl (turn Partition.service) p).1.online = p.1.online := by
  induction slots generalizing p with
  | nil => rfl
  | cons slot rest ih => exact (ih (h.after_turn slot)).trans (h.online_turn slot)

end InStep

/-! ## Records -/

/-- The record of a slot, told by the reach of the partition, and by the tables before and after. -/
def slotRecord (online : Bool) (before after : KeyTable) (slot : KeySlot) : LogRecord :=
  if before.hasKey slot then
    ⟨.debug, logTarget, slot.label ++ " already provisioned, skipping"⟩
  else if after.hasKey slot then
    ⟨.info, logTarget, slot.label ++ " key generated (" ++ slot.keyId.text ++ ")"⟩
  else
    let failure : Failure := if online then .importFailed else .derivationUnavailable
    ⟨.error, logTarget, slot.label ++ " key import failed: " ++ failure.label ++ " (" ++
      toString failure.code ++ ")"⟩

/-- Only the slot itself counts. -/
lemma slotRecord_congr {online : Bool} {before before' after after' : KeyTable} {slot : KeySlot}
    (hbefore : before.hasKey slot = before'.hasKey slot)
    (hafter : after.hasKey slot = after'.hasKey slot) :
    slotRecord online before after slot = slotRecord online before' after' slot := by
  rw [slotRecord, slotRecord, hbefore, hafter]

lemma log_provisionSlot {p : Partition × KeyTable} (h : InStep p) (slot : KeySlot) :
    ((provisionSlot Partition.service slot).run p).log =
      [slotRecord p.1.online p.2 (turn Partition.service p slot).2 slot] := by
  rw [provisionSlot, Action.log_bind_of_returns (Action.returns_get.2 ⟨rfl, rfl⟩)]
  by_cases hkey : p.2.hasKey slot = true
  · rw [slotRecord, if_pos hkey, if_pos hkey]
    rfl
  · have hquiet : (Partition.service.deriveKey slot.keyId slot.label slot.usage).Quiet p.1 :=
      Partition.quiet_deriveKey (h.free hkey)
    rw [slotRecord, if_neg hkey, if_neg hkey]
    rcases h.turn_cases hkey with ⟨key, hderive, hturn⟩ | ⟨e, hderive, hturn⟩
    · have hattempt : ((Partition.service.deriveKey slot.keyId slot.label slot.usage).onFst.attempt
          (σ := Partition × KeyTable)).Returns p (.ok ())
          (p.1.store slot.keyId ⟨key, slot.usage⟩, p.2) :=
        Action.returns_attempt.2 ⟨hderive.1, Prod.ext hderive.2 rfl⟩
      have hslot : (p.2.set slot .keyGenerated).hasKey slot = true :=
        hasKey_set_of_hasKey (by decide) (.inl rfl)
      rw [Action.log_bind_of_returns hattempt, hturn, if_pos hslot]
      exact congrArg (· ++ _) hquiet.log
    · have hattempt : ((Partition.service.deriveKey slot.keyId slot.label slot.usage).onFst.attempt
          (σ := Partition × KeyTable)).Returns p (.error e) p :=
        Action.returns_attempt.2 ⟨hderive.1, Prod.ext hderive.2 rfl⟩
      rw [Action.log_bind_of_returns hattempt, hturn, if_neg hkey,
        Partition.fails_deriveKey (h.free hkey) hderive]
      exact congrArg (· ++ _) hquiet.log

/-- The loop over slots emits one record for each of them. -/
lemma log_turns : ∀ {slots : List KeySlot} {p : Partition × KeyTable}, slots.Nodup → InStep p →
    ((slots.forM (provisionSlot Partition.service)).run p).log =
      slots.map (slotRecord p.1.online p.2 (slots.foldl (turn Partition.service) p).2)
  | [], _, _, _ => rfl
  | slot :: rest, p, hnodup, h => by
    obtain ⟨hslot, hrest⟩ := List.nodup_cons.1 hnodup
    have hturn := returns_provisionSlot Partition.service p slot
    have hloop : (slot :: rest).forM (provisionSlot Partition.service) =
      (do provisionSlot Partition.service slot; rest.forM (provisionSlot Partition.service)) := rfl
    rw [hloop, Action.log_bind_of_returns hturn, log_provisionSlot h,
      log_turns hrest (h.after_turn slot), h.online_turn slot, List.map_cons, List.foldl_cons,
      List.singleton_append]
    congr 1
    · -- the turns that follow leave the slot alone
      exact slotRecord_congr rfl (hasKey_turns_of_notMem hslot).symm
    · -- and so did its own turn with the slots that follow
      refine List.map_congr_left fun other hother => slotRecord_congr ?_ rfl
      exact hasKey_turn_of_ne fun heq => hslot (heq ▸ hother)

/-- **What provisioning says**, one record for each slot. -/
lemma log_provision {p : Partition × KeyTable} (h : InStep p) :
    ((provision Partition.service).run p).log =
      KeySlot.all.map (slotRecord p.1.online p.2
        (KeySlot.all.foldl (turn Partition.service) p).2) := by
  have hturns := returns_turns Partition.service KeySlot.all p
  rw [provision, Action.log_bind_of_returns hturns, log_turns (by decide) h]
  exact List.append_nil _

/-! ## Public keys -/

/-- A public key is fetched, or refused, without a word. -/
lemma quiet_publicKey (table : KeyTable) (id : KeyId) {s : Partition} :
    (table.publicKey Partition.service id).Quiet s := by
  refine Action.reports_bind (Action.reports_ofExcept fun _ => rfl) fun _ => ?_
  split_ifs
  · refine Action.reports_bind (Partition.quiet_exportKey.reports_mapFailure fun _ => rfl)
      fun _ => ?_
    split_ifs
    · exact Action.reports_pure _
    · exact Action.reports_fail rfl
  · exact Action.reports_fail rfl

end KeyTable

end DeviceIdentity

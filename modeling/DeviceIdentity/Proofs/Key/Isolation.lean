import DeviceIdentity.Partition.Interference
import DeviceIdentity.Proofs.Device.History
import DeviceIdentity.Proofs.Partition.Run
import DeviceIdentity.Proofs.SecureService.Inquiries

/-!
# Slots fail on their own

Initialisation gives each slot without a key its turn, in which the service is asked once for the
key of this slot.  The table afterwards is the answers: a key for each slot whose question was
answered, and the status before for every other one.

On the emulated partition, moreover, the turn of a slot looks at nothing that the turn of another
slot changes.  So faults that reject the keys of some slots cost these slots their keys and no
other, and when the faults are gone, one more initialisation catches up.

* `KeyTable.Accounts` — how the questions account for the table; `turns_noting`, `provision_noting`
  — after any turns, and after an initialisation.
* `KeyTable.SameAt` — what the turn of a slot looks at; `KeyTable.Separate` — turns that look and
  act at their own slot alone; `Separate.turns` — of several turns a slot sees its own.
* `Interference.rejecting` — a service that rejects keys; `sameAt_turn_again`,
  `sameAt_provision_again` — a turn without the faults makes up for one with them, and so does an
  initialisation; `table_provision_again`, `key?_provision_again` — in the table and in the keys.
* `status_provision_rejecting`, `exists_publicKey_rejecting` — which slots come to have a key in
  spite of the faults, and that it is their own.
* **`provision_isolates_failures`** — all of this together.
-/

namespace DeviceIdentity

open DeviceIdentity.Action (Fails Returns)

/-- What the service is asked for a slot. -/
def KeySlot.derivation (slot : KeySlot) : Question := .deriveKey slot.keyId slot.label slot.usage

lemma KeySlot.eq_of_derivation {a b : KeySlot} (h : a.derivation = b.derivation) : a = b := by
  obtain ⟨hid, -, -⟩ := Question.deriveKey.inj h
  exact keyId_inj.1 hid

namespace KeyTable

lemma nodup_all : KeySlot.all.Nodup := by decide

/-! ## What the service is asked -/

section Inquiries

variable {σ : Type} (service : SecureService σ)

/-- What the service is asked in the turn of a slot, and how it answers. -/
def inquiries (p : σ × KeyTable) (slot : KeySlot) : List Inquiry :=
  if p.2.hasKey slot then []
  else [⟨slot.derivation, ((service.ask slot.derivation).run p.1).result⟩]

/-- Noting adds the questions of the turn. -/
lemma turn_noting (s : σ) (noted : List Inquiry) (table : KeyTable) (slot : KeySlot) :
    turn service.noting ((s, noted), table) slot =
      (((turn service (s, table) slot).1, noted ++ inquiries service (s, table) slot),
        (turn service (s, table) slot).2) := by
  unfold inquiries
  by_cases hkey : table.hasKey slot = true
  · rw [turn_of_hasKey hkey, turn_of_hasKey hkey, if_pos hkey, List.append_nil]
  · rw [if_neg hkey]
    rcases Action.returns_or_fails (service.deriveKey slot.keyId slot.label slot.usage) s with
      ⟨u, h⟩ | ⟨e, h⟩
    · rw [turn_of_returns (p := (s, table)) hkey h]
      exact turn_of_returns hkey ⟨h.1, rfl⟩
    · rw [turn_of_fails (p := (s, table)) hkey h]
      exact turn_of_fails hkey ⟨h.1, rfl⟩

/-- A turn does nothing, gives the slot a key because the service says so, or leaves it without. -/
lemma turn_cases (p : σ × KeyTable) (slot : KeySlot) :
    (p.2.status slot ≠ .notProvisioned ∧ inquiries service p slot = [] ∧
      (turn service p slot).2 = p.2) ∨
    (p.2.status slot = .notProvisioned ∧
      ((inquiries service p slot = [⟨slot.derivation, .ok ()⟩] ∧
        (turn service p slot).2 = p.2.set slot .keyGenerated) ∨
      ∃ e, inquiries service p slot = [⟨slot.derivation, .error e⟩] ∧
        (turn service p slot).2 = p.2)) := by
  unfold inquiries
  by_cases hkey : p.2.hasKey slot = true
  · rw [turn_of_hasKey hkey, if_pos hkey]
    exact .inl ⟨of_decide_eq_true hkey, rfl, rfl⟩
  · rw [if_neg hkey]
    refine .inr ⟨of_not_not fun h => hkey (decide_eq_true h), ?_⟩
    rcases Action.returns_or_fails (service.deriveKey slot.keyId slot.label slot.usage) p.1 with
      ⟨u, h⟩ | ⟨e, h⟩
    · have hanswer : ((service.ask slot.derivation).run p.1).result = .ok () := h.1
      rw [turn_of_returns hkey h, hanswer]
      exact .inl ⟨rfl, rfl⟩
    · have hanswer : ((service.ask slot.derivation).run p.1).result = .error e := h.1
      rw [turn_of_fails hkey h, hanswer]
      exact .inr ⟨e, rfl, rfl⟩

variable {service}

lemma status_turn_of_ne {p : σ × KeyTable} {slot other : KeySlot} (h : other ≠ slot) :
    (turn service p slot).2.status other = p.2.status other := by
  obtain ⟨-, -, hsame⟩ | ⟨-, ⟨-, hset⟩ | ⟨_, -, hsame⟩⟩ := turn_cases service p slot
  · rw [hsame]
  · rw [hset, status_set_of_ne _ _ h]
  · rw [hsame]

/-- How the questions noted in the turns of some slots account for the table afterwards. -/
structure Accounts (slots : List KeySlot) (table : KeyTable) (noted : List Inquiry)
    (after : KeyTable) : Prop where
  questions : noted.map Inquiry.question =
    (slots.filter fun slot => table.status slot = .notProvisioned).map KeySlot.derivation
  given : ∀ slot, table.status slot = .notProvisioned → ⟨slot.derivation, .ok ()⟩ ∈ noted →
    after.status slot = .keyGenerated
  kept : ∀ slot, table.status slot ≠ .notProvisioned ∨ ⟨slot.derivation, .ok ()⟩ ∉ noted →
    after.status slot = table.status slot

lemma accounts_nil (table : KeyTable) : Accounts [] table [] table where
  questions := rfl
  given _ _ h := nomatch h
  kept _ _ := rfl

/-- No question is asked for a slot that has no turn. -/
lemma Accounts.mem_slots {slots : List KeySlot} {table after : KeyTable} {noted : List Inquiry}
    (h : Accounts slots table noted after) {inquiry : Inquiry} (hmem : inquiry ∈ noted)
    {slot : KeySlot} (hquestion : inquiry.question = slot.derivation) : slot ∈ slots := by
  have hmap := List.mem_map_of_mem (f := Inquiry.question) hmem
  rw [h.questions, hquestion] at hmap
  obtain ⟨other, hother, heq⟩ := List.mem_map.1 hmap
  obtain rfl := KeySlot.eq_of_derivation heq
  exact (List.mem_filter.1 hother).1

/-- A slot without a key has one afterwards if its question was answered, and otherwise none. -/
lemma Accounts.status_of_notProvisioned {slots : List KeySlot} {table after : KeyTable}
    {noted : List Inquiry} (h : Accounts slots table noted after) {slot : KeySlot}
    (hslot : table.status slot = .notProvisioned) :
    (after.status slot = .keyGenerated ↔ ⟨slot.derivation, .ok ()⟩ ∈ noted) ∧
      (after.status slot = .keyGenerated ∨ after.status slot = .notProvisioned) := by
  by_cases hgranted : ⟨slot.derivation, .ok ()⟩ ∈ noted
  · have hgiven := h.given slot hslot hgranted
    exact ⟨iff_of_true hgiven hgranted, .inl hgiven⟩
  · have hkept := h.kept slot (.inr hgranted)
    rw [hslot] at hkept
    exact ⟨iff_of_false (by rw [hkept]; nofun) hgranted, .inr hkept⟩

/-- One more slot takes its turn before the others. -/
lemma Accounts.cons {slots : List KeySlot} {slot : KeySlot} (hslot : slot ∉ slots)
    {p : σ × KeyTable} {after : KeyTable} {noted : List Inquiry}
    (h : Accounts slots (turn service p slot).2 noted after) :
    Accounts (slot :: slots) p.2 (inquiries service p slot ++ noted) after where
  questions := by
    have hothers : (slots.filter fun other =>
        (turn service p slot).2.status other = .notProvisioned) =
        slots.filter fun other => p.2.status other = .notProvisioned := by
      refine List.filter_congr fun other hother => ?_
      rw [status_turn_of_ne]
      rintro rfl
      exact hslot hother
    rw [List.map_append, h.questions, hothers]
    obtain ⟨hkey, hnone, -⟩ | ⟨hkey, ⟨hone, -⟩ | ⟨_, hone, -⟩⟩ :=
      turn_cases service p slot
    · rw [hnone, List.filter_cons_of_neg (by simpa using hkey)]
      rfl
    · rw [hone, List.filter_cons_of_pos (by simpa using hkey)]
      rfl
    · rw [hone, List.filter_cons_of_pos (by simpa using hkey)]
      rfl
  given other hother hmem := by
    rcases List.mem_append.1 hmem with hhead | hrest
    · obtain ⟨-, hnone, -⟩ | ⟨-, ⟨hone, hset⟩ | ⟨_, hone, -⟩⟩ :=
        turn_cases service p slot
      · rw [hnone] at hhead
        cases hhead
      · rw [hone, List.mem_singleton] at hhead
        obtain rfl := KeySlot.eq_of_derivation (congrArg Inquiry.question hhead)
        have hgiven : (turn service p other).2.status other = .keyGenerated := by
          rw [hset, status_set_self]
        rw [h.kept other (.inl (by rw [hgiven]; nofun)), hgiven]
      · rw [hone, List.mem_singleton] at hhead
        obtain rfl := KeySlot.eq_of_derivation (congrArg Inquiry.question hhead)
        simp at hhead
    · have hne : other ≠ slot := fun heq => hslot (heq ▸ h.mem_slots hrest rfl)
      refine h.given other ?_ hrest
      rwa [status_turn_of_ne hne]
  kept other hother := by
    rw [List.mem_append, not_or] at hother
    by_cases heq : other = slot
    · subst heq
      obtain ⟨hkey, -, hsame⟩ | ⟨hkey, ⟨hone, -⟩ | ⟨_, -, hsame⟩⟩ :=
        turn_cases service p other
      · rw [h.kept other (.inl (by rwa [hsame])), hsame]
      · rw [hone, List.mem_singleton] at hother
        exact (hother.resolve_left (not_not_intro hkey)).1.elim rfl
      · have hrest := (hother.resolve_left (not_not_intro hkey)).2
        rw [h.kept other (.inr hrest), hsame]
    · rw [h.kept other (by rw [status_turn_of_ne heq]; exact hother.imp_right And.right),
        status_turn_of_ne heq]

/-- Slots take their turns one after the other. -/
lemma turns_noting (service : SecureService σ) {slots : List KeySlot} (hslots : slots.Nodup)
    (p : σ × KeyTable) (noted : List Inquiry) :
    ∃ more, slots.foldl (turn service.noting) ((p.1, noted), p.2) =
        (((slots.foldl (turn service) p).1, noted ++ more), (slots.foldl (turn service) p).2) ∧
      Accounts slots p.2 more (slots.foldl (turn service) p).2 := by
  induction slots generalizing p noted with
  | nil => exact ⟨[], by rw [List.append_nil]; rfl, accounts_nil p.2⟩
  | cons slot slots ih =>
    obtain ⟨hslot, hrest⟩ := List.nodup_cons.1 hslots
    obtain ⟨more, hrun, haccounts⟩ :=
      ih hrest (turn service p slot) (noted ++ inquiries service p slot)
    refine ⟨inquiries service p slot ++ more, ?_, haccounts.cons hslot⟩
    rw [List.foldl_cons, List.foldl_cons, turn_noting, hrun, List.append_assoc]

/-- The same for all slots. -/
lemma provision_noting (service : SecureService σ) (p : σ × KeyTable) :
    let outcome := (provision service).run p
    let noted := (provision service.noting).run ((p.1, []), p.2)
    ∃ asked, noted.result = outcome.result ∧
      noted.state = ((outcome.state.1, asked), outcome.state.2) ∧
      Accounts KeySlot.all p.2 asked outcome.state.2 := by
  intro outcome noted
  obtain ⟨asked, hrun, haccounts⟩ := turns_noting service nodup_all p []
  obtain ⟨hresult, hstate⟩ := returns_provision service p
  obtain ⟨hresult', hstate'⟩ := returns_provision service.noting ((p.1, []), p.2)
  rw [hrun, List.nil_append, ← hstate] at hresult' hstate'
  rw [← hstate] at hresult haccounts
  exact ⟨asked, hresult'.trans hresult.symm, hstate', haccounts⟩

end Inquiries

end KeyTable

/-! ## The partition, slot by slot -/

namespace Partition

variable {s s' : Partition} {id : KeyId} {key : StoredKey}

/-- The later state holds a key under an identifier, and is otherwise as the earlier one. -/
structure Gains (s : Partition) (id : KeyId) (key : StoredKey) (s' : Partition) : Prop where
  online : s'.online = s.online
  hardwareKey : s'.hardwareKey = s.hardwareKey
  labelSuffix : s'.labelSuffix = s.labelSuffix
  key?_self : s'.key? id = some key
  key?_of_ne : ∀ {other}, other ≠ id → s'.key? other = s.key? other

lemma gains_store (s : Partition) (id : KeyId) (key : StoredKey) :
    s.Gains id key (s.store id key) :=
  ⟨rfl, rfl, rfl, key?_store_self s id key, key?_store_of_ne s id key⟩

lemma gains_self (h : s.key? id = some key) : s.Gains id key s :=
  ⟨rfl, rfl, rfl, h, fun _ => rfl⟩

end Partition

namespace KeyTable

section Partition

variable {p q : Partition × KeyTable} {slot other : KeySlot}

/-- The state as far as the turn of a slot looks at it. -/
structure SameAt (slot : KeySlot) (p q : Partition × KeyTable) : Prop where
  online : p.1.online = q.1.online
  hardwareKey : p.1.hardwareKey = q.1.hardwareKey
  labelSuffix : p.1.labelSuffix = q.1.labelSuffix
  key? : p.1.key? slot.keyId = q.1.key? slot.keyId
  status : p.2.status slot = q.2.status slot

lemma sameAt_refl (slot : KeySlot) (p : Partition × KeyTable) : SameAt slot p p :=
  ⟨rfl, rfl, rfl, rfl, rfl⟩

lemma SameAt.symm (h : SameAt slot p q) : SameAt slot q p :=
  ⟨h.online.symm, h.hardwareKey.symm, h.labelSuffix.symm, h.key?.symm, h.status.symm⟩

lemma SameAt.trans {r : Partition × KeyTable} (h : SameAt slot p q) (h' : SameAt slot q r) :
    SameAt slot p r :=
  ⟨h.online.trans h'.online, h.hardwareKey.trans h'.hardwareKey,
    h.labelSuffix.trans h'.labelSuffix, h.key?.trans h'.key?, h.status.trans h'.status⟩

lemma SameAt.hasKey (h : SameAt slot p q) : p.2.hasKey slot = q.2.hasKey slot := by
  rw [KeyTable.hasKey, KeyTable.hasKey, h.status]

lemma SameAt.canHold {key : Ecdsa.PrivateKey} (h : SameAt slot p q) (hhold : p.1.CanHold slot key) :
    q.1.CanHold slot key where
  online := h.online ▸ hhold.online
  derives := by
    rw [← hhold.derives, Partition.derivedScalar, Partition.derivedScalar, Partition.derived,
      Partition.derived, Partition.derived, Partition.derived, h.hardwareKey, h.labelSuffix]
  place := h.key? ▸ hhold.place

/-- A turn gives a slot without a key the key derived for it, if the partition can hold it. -/
lemma turn_of_canHold {key : Ecdsa.PrivateKey} (hkey : ¬p.2.hasKey slot = true)
    (hhold : p.1.CanHold slot key) :
    ∃ s, turn Partition.service p slot = (s, p.2.set slot .keyGenerated) ∧
      p.1.Gains slot.keyId ⟨key, slot.usage⟩ s := by
  obtain ⟨s, h⟩ := hhold.returns_deriveKey
  refine ⟨s, turn_of_returns hkey h, ?_⟩
  obtain ⟨-, stored, hderives, hplace⟩ :=
    Partition.returns_importKey.1 (Partition.returns_deriveKey.1 h)
  obtain rfl : stored = key := Option.some.inj (hderives.symm.trans hhold.derives)
  rcases hplace with ⟨-, rfl⟩ | ⟨hsame, rfl⟩
  · exact Partition.gains_store _ _ _
  · exact Partition.gains_self hsame

/-- Otherwise it does nothing. -/
lemma turn_of_not_canHold (h : ∀ key, ¬p.1.CanHold slot key) :
    turn Partition.service p slot = p := by
  by_cases hkey : p.2.hasKey slot = true
  · exact turn_of_hasKey hkey
  · rcases Action.returns_or_fails
      (Partition.service.deriveKey slot.keyId slot.label slot.usage) p.1 with ⟨u, hr⟩ | ⟨e, hf⟩
    · obtain ⟨honline, key, hderives, hplace⟩ :=
        Partition.returns_importKey.1 (Partition.returns_deriveKey.1 hr)
      exact (h key ⟨honline, hderives, hplace.imp And.left And.left⟩).elim
    · rw [turn_of_fails hkey hf, Partition.allOrNothing_deriveKey _ _ _ hf]

/-- So a turn does nothing but to give the slot a key, if anything. -/
lemma turn_eq_or_gains (p : Partition × KeyTable) (slot : KeySlot) :
    turn Partition.service p slot = p ∨
      ∃ key s, turn Partition.service p slot = (s, p.2.set slot .keyGenerated) ∧
        p.1.Gains slot.keyId key s := by
  by_cases hkey : p.2.hasKey slot = true
  · exact .inl (turn_of_hasKey hkey)
  · by_cases hhold : ∃ key, p.1.CanHold slot key
    · obtain ⟨key, hhold⟩ := hhold
      exact .inr ⟨_, turn_of_canHold hkey hhold⟩
    · exact .inl (turn_of_not_canHold (not_exists.1 hhold))

/-- What the turns of a service do to a slot depends on the slot alone, and only its own turn does
anything to it. -/
structure Separate (service : SecureService Partition) : Prop where
  key?_of_ne : ∀ {id : KeyId} {slot : KeySlot} (p : Partition × KeyTable), id ≠ slot.keyId →
    (turn service p slot).1.key? id = p.1.key? id
  other : ∀ {slot other : KeySlot} (p : Partition × KeyTable), slot ≠ other →
    SameAt slot p (turn service p other)
  own : ∀ {slot : KeySlot} {p q : Partition × KeyTable}, SameAt slot p q →
    SameAt slot (turn service p slot) (turn service q slot)

lemma separate_partition : Separate Partition.service where
  key?_of_ne := by
    intro id slot p hne
    obtain hsame | ⟨key, s, hturn, hgains⟩ := turn_eq_or_gains p slot
    · rw [hsame]
    · rw [hturn, hgains.key?_of_ne hne]
  other := by
    intro slot other p hne
    obtain hsame | ⟨key, s, hturn, hgains⟩ := turn_eq_or_gains p other
    · rw [hsame]
      exact sameAt_refl slot p
    · rw [hturn]
      have hid : slot.keyId ≠ other.keyId := fun hid => hne (KeySlot.keyId_inj.1 hid)
      exact ⟨hgains.online.symm, hgains.hardwareKey.symm, hgains.labelSuffix.symm,
        (hgains.key?_of_ne hid).symm, (status_set_of_ne p.2 _ hne).symm⟩
  own := by
    intro slot p q h
    by_cases hkey : p.2.hasKey slot = true
    · rw [turn_of_hasKey hkey, turn_of_hasKey (h.hasKey ▸ hkey)]
      exact h
    · by_cases hhold : ∃ key, p.1.CanHold slot key
      · obtain ⟨key, hhold⟩ := hhold
        obtain ⟨s, hturn, hgains⟩ := turn_of_canHold hkey hhold
        obtain ⟨t, hturn', hgains'⟩ := turn_of_canHold (h.hasKey ▸ hkey) (h.canHold hhold)
        rw [hturn, hturn']
        refine ⟨?_, ?_, ?_, ?_, ?_⟩
        · rw [hgains.online, hgains'.online, h.online]
        · rw [hgains.hardwareKey, hgains'.hardwareKey, h.hardwareKey]
        · rw [hgains.labelSuffix, hgains'.labelSuffix, h.labelSuffix]
        · rw [hgains.key?_self, hgains'.key?_self]
        · rw [status_set_self, status_set_self]
      · have hhold' : ∀ key, ¬q.1.CanHold slot key := fun key hq => hhold ⟨key, h.symm.canHold hq⟩
        rw [turn_of_not_canHold (not_exists.1 hhold), turn_of_not_canHold hhold']
        exact h

/-- In its second turn in a row, a slot has what it can have. -/
lemma turn_turn (p : Partition × KeyTable) (slot : KeySlot) :
    turn Partition.service (turn Partition.service p slot) slot =
      turn Partition.service p slot := by
  obtain hsame | ⟨key, s, hturn, -⟩ := turn_eq_or_gains p slot
  · rw [hsame, hsame]
  · rw [hturn]
    exact turn_of_hasKey (hasKey_set_of_hasKey (by decide) (.inl rfl))

namespace Separate

variable {service : SecureService Partition} (h : Separate service)
include h

lemma key?_turns {id : KeyId} (hid : ∀ slot : KeySlot, id ≠ slot.keyId) (slots : List KeySlot)
    (p : Partition × KeyTable) : (slots.foldl (turn service) p).1.key? id = p.1.key? id := by
  induction slots generalizing p with
  | nil => rfl
  | cons slot slots ih => rw [List.foldl_cons, ih, h.key?_of_ne p (hid slot)]

lemma turns_of_not_mem {slots : List KeySlot} {slot : KeySlot} (hslot : slot ∉ slots)
    (p : Partition × KeyTable) : SameAt slot p (slots.foldl (turn service) p) := by
  induction slots generalizing p with
  | nil => exact sameAt_refl slot p
  | cons other slots ih =>
    have hne := List.ne_of_not_mem_cons hslot
    exact (h.other p hne).trans (ih (List.not_mem_of_not_mem_cons hslot) _)

/-- Of the turns of several slots, a slot sees its own. -/
lemma turns {slots : List KeySlot} (hslots : slots.Nodup) {slot : KeySlot} (hslot : slot ∈ slots)
    (p : Partition × KeyTable) :
    SameAt slot (turn service p slot) (slots.foldl (turn service) p) := by
  induction slots generalizing p with
  | nil => cases hslot
  | cons other slots ih =>
    obtain ⟨hother, hrest⟩ := List.nodup_cons.1 hslots
    by_cases heq : slot = other
    · subst heq
      exact h.turns_of_not_mem hother _
    · have hmem := (List.mem_cons.1 hslot).resolve_left heq
      exact (h.own (h.other p heq)).trans (ih hrest hmem _)

lemma key?_provision {id : KeyId} (hid : ∀ slot : KeySlot, id ≠ slot.keyId)
    (p : Partition × KeyTable) : ((provision service).run p).state.1.key? id = p.1.key? id := by
  rw [(returns_provision service p).2]
  exact h.key?_turns hid _ _

/-- Of an initialisation as well. -/
lemma sameAt_provision (slot : KeySlot) (p : Partition × KeyTable) :
    SameAt slot (turn service p slot) ((provision service).run p).state := by
  rw [(returns_provision service p).2]
  exact h.turns nodup_all (KeySlot.mem_all slot) p

end Separate

end Partition

end KeyTable

/-! ## Rejected imports -/

namespace Interference

variable {σ : Type}

/-- A service that rejects the import of some keys. -/
def rejecting (rejected : List KeyId) (service : SecureService σ) : SecureService σ where
  toDeriver := service.toDeriver
  setLabelSuffix := service.setLabelSuffix
  importKey id usage scalar :=
    if rejected.contains id then Action.fail .importFailed else service.importKey id usage scalar
  exportKey := service.exportKey
  sign := service.sign
  encodeValue := service.encodeValue
  deviceUuid := service.deviceUuid

/-- Nothing else is disturbed. -/
lemma disturb_rejectImport (rejected : List KeyId) (service : SecureService σ) :
    disturb { rejectImport := rejected } service = rejecting rejected service := by
  unfold disturb rejecting
  simp only [instead, Option.map_none, Option.getD_none, Action.bind_pure]

section Rejecting

variable {rejected : List KeyId} {service : SecureService σ} {id : KeyId} {purpose : String}
  {usage : KeyUsage}

/-- A key that is rejected is derived and not stored. -/
lemma deriveKey_of_mem (h : id ∈ rejected) :
    (rejecting rejected service).deriveKey id purpose usage =
      service.ecPrivateKey purpose >>= fun _ => Action.fail .importFailed := by
  change (service.ecPrivateKey purpose >>= fun scalar =>
    (rejecting rejected service).importKey id usage scalar) = _
  have himport : ∀ scalar, (rejecting rejected service).importKey id usage scalar =
      Action.fail .importFailed := fun _ => if_pos (List.contains_iff_mem.2 h)
  simp only [himport]

/-- Any other key is derived in the usual way. -/
lemma deriveKey_of_not_mem (h : id ∉ rejected) :
    (rejecting rejected service).deriveKey id purpose usage =
      service.usual.deriveKey id purpose usage := by
  change (service.ecPrivateKey purpose >>= fun scalar =>
    (rejecting rejected service).importKey id usage scalar) = _
  have himport : ∀ scalar, (rejecting rejected service).importKey id usage scalar =
      service.importKey id usage scalar := fun _ => if_neg (mt List.contains_iff_mem.1 h)
  simp only [himport]
  rfl

end Rejecting

end Interference

namespace KeyTable

variable {rejected : List KeyId} {p : Partition × KeyTable} {slot : KeySlot}

/-- The turn of a slot whose key is rejected does nothing. -/
lemma turn_rejecting_of_mem (hslot : slot.keyId ∈ rejected) :
    turn (Interference.rejecting rejected Partition.service) p slot = p := by
  by_cases hkey : p.2.hasKey slot = true
  · exact turn_of_hasKey hkey
  · have hderive : (Interference.rejecting rejected Partition.service).deriveKey slot.keyId
        slot.label slot.usage =
          Partition.deriver.ecPrivateKey slot.label >>= fun _ => Action.fail .importFailed :=
      Interference.deriveKey_of_mem hslot
    have hkeeps : ((Interference.rejecting rejected Partition.service).deriveKey slot.keyId
        slot.label slot.usage).Keeps Eq := by
      rw [hderive]
      exact Action.keeps_bind (Partition.keeps_ecPrivateKey slot.label) fun _ =>
        Action.keeps_fail _
    rcases Action.returns_or_fails ((Interference.rejecting rejected
      Partition.service).deriveKey slot.keyId slot.label slot.usage) p.1 with ⟨u, h⟩ | ⟨e, h⟩
    · rw [hderive] at h
      obtain ⟨_, _, -, h⟩ := Action.returns_bind.1 h
      exact (Action.returns_fail.1 h).elim
    · rw [turn_of_fails hkey h, ← hkeeps p.1]

/-- The turn of any other slot is as without the faults. -/
lemma turn_rejecting_of_not_mem (hslot : slot.keyId ∉ rejected) :
    turn (Interference.rejecting rejected Partition.service) p slot =
      turn Partition.service p slot := by
  rw [turn, turn, Interference.deriveKey_of_not_mem hslot]
  rfl

lemma separate_rejecting (rejected : List KeyId) :
    Separate (Interference.rejecting rejected Partition.service) where
  key?_of_ne {id slot} p hid := by
    by_cases hslot : slot.keyId ∈ rejected
    · rw [turn_rejecting_of_mem hslot]
    · rw [turn_rejecting_of_not_mem hslot, separate_partition.key?_of_ne p hid]
  other {slot other} p hne := by
    by_cases hother : other.keyId ∈ rejected
    · rw [turn_rejecting_of_mem hother]
      exact sameAt_refl slot p
    · rw [turn_rejecting_of_not_mem hother]
      exact separate_partition.other p hne
  own {slot p q} h := by
    by_cases hslot : slot.keyId ∈ rejected
    · rw [turn_rejecting_of_mem hslot, turn_rejecting_of_mem hslot]
      exact h
    · rw [turn_rejecting_of_not_mem hslot, turn_rejecting_of_not_mem hslot]
      exact separate_partition.own h

/-- A turn without the faults makes up for one with them. -/
lemma sameAt_turn_again {q : Partition × KeyTable}
    (h : SameAt slot (turn (Interference.rejecting rejected Partition.service) p slot) q) :
    SameAt slot (turn Partition.service p slot) (turn Partition.service q slot) := by
  by_cases hslot : slot.keyId ∈ rejected
  · rw [turn_rejecting_of_mem hslot] at h
    exact separate_partition.own h
  · rw [turn_rejecting_of_not_mem hslot] at h
    have hagain := separate_partition.own h
    rwa [turn_turn] at hagain

/-- So does an initialisation. -/
lemma sameAt_provision_again (rejected : List KeyId) (slot : KeySlot)
    (p : Partition × KeyTable) :
    let faulty := (provision (Interference.rejecting rejected Partition.service)).run p
    SameAt slot ((provision Partition.service).run p).state
      ((provision Partition.service).run faulty.state).state := by
  intro faulty
  have hfaulty := (separate_rejecting rejected).sameAt_provision slot p
  have hfree := separate_partition.sameAt_provision slot p
  have hagain := separate_partition.sameAt_provision slot faulty.state
  exact hfree.symm.trans ((sameAt_turn_again hfaulty).trans hagain)

lemma key?_provision_again (rejected : List KeyId) (p : Partition × KeyTable) (id : KeyId) :
    let faulty := (provision (Interference.rejecting rejected Partition.service)).run p
    ((provision Partition.service).run faulty.state).state.1.key? id =
      ((provision Partition.service).run p).state.1.key? id := by
  intro faulty
  by_cases hid : ∃ slot : KeySlot, id = slot.keyId
  · obtain ⟨slot, rfl⟩ := hid
    exact (sameAt_provision_again rejected slot p).key?.symm
  · have hnone := not_exists.1 hid
    rw [separate_partition.key?_provision hnone, separate_partition.key?_provision hnone]
    exact (separate_rejecting rejected).key?_provision hnone p

lemma result_provision {σ : Type} (service : SecureService σ) (p : σ × KeyTable) :
    ((provision service).run p).result = .ok ((provision service).run p).state.2.ready := by
  obtain ⟨hresult, hstate⟩ := returns_provision service p
  rw [hresult, hstate]

/-- A slot that came to have a key in its turn has the key that can be fetched. -/
lemma returns_publicKey_of_turn (hbefore : p.2.status slot = .notProvisioned)
    (hafter : (turn Partition.service p slot).2.status slot ≠ .notProvisioned) :
    ∃ raw, ∀ {service : SecureService Partition} {q : Partition × KeyTable},
      service.exportKey = Partition.exportKey → SameAt slot (turn Partition.service p slot) q →
        (q.2.publicKey service slot.keyId).Returns q.1 raw q.1 := by
  have hkey : ¬p.2.hasKey slot = true := by
    rw [hasKey, decide_eq_true_iff, not_not]
    exact hbefore
  by_cases hhold : ∃ key, p.1.CanHold slot key
  · obtain ⟨key, hhold⟩ := hhold
    obtain ⟨s, hturn, hgains⟩ := turn_of_canHold hkey hhold
    refine ⟨key.point.encode, fun {service q} hexport hq => ?_⟩
    rw [hturn] at hq
    have honline : q.1.online = true := by
      rw [← hq.online, hgains.online, hhold.online]
    have hstored : q.1.key? slot.keyId = some ⟨key, slot.usage⟩ := by
      rw [← hq.key?, hgains.key?_self]
    have hready : q.2.hasKey slot = true := by
      rw [← hq.hasKey]
      exact hasKey_set_of_hasKey (by decide) (.inl rfl)
    refine returns_publicKey.2 ⟨⟨slot, slot_keyId slot, hready⟩, ?_, key.encode_point.1⟩
    rw [hexport]
    exact Partition.returns_exportKey.2 ⟨honline, rfl, _, hstored, rfl⟩
  · rw [turn_of_not_canHold (not_exists.1 hhold)] at hafter
    exact (hafter hbefore).elim

/-- So the table is the one that an initialisation without the faults would have led to. -/
lemma table_provision_again (rejected : List KeyId) (p : Partition × KeyTable) :
    let faulty := (provision (Interference.rejecting rejected Partition.service)).run p
    ((provision Partition.service).run faulty.state).state.2 =
      ((provision Partition.service).run p).state.2 :=
  ext_status fun slot => (sameAt_provision_again rejected slot p).status.symm

section Rejecting

variable (hslot : p.2.status slot = .notProvisioned)
include hslot

/-- Just those slots come to have a key that are not rejected and would come to have one. -/
lemma status_provision_rejecting :
    ((provision (Interference.rejecting rejected Partition.service)).run p).state.2.status slot ≠
        .notProvisioned ↔
      slot.keyId ∉ rejected ∧
        ((provision Partition.service).run p).state.2.status slot ≠ .notProvisioned := by
  rw [← ((separate_rejecting rejected).sameAt_provision slot p).status,
    ← (separate_partition.sameAt_provision slot p).status]
  by_cases hmem : slot.keyId ∈ rejected
  · rw [turn_rejecting_of_mem hmem]
    exact iff_of_false (not_not_intro hslot) fun h => h.1 hmem
  · rw [turn_rejecting_of_not_mem hmem]
    exact (and_iff_right hmem).symm

/-- The key that such a slot comes to have is the one that it would have without the faults. -/
lemma exists_publicKey_rejecting :
    let service := Interference.rejecting rejected Partition.service
    let faulty := (provision service).run p
    let free := (provision Partition.service).run p
    faulty.state.2.status slot ≠ .notProvisioned → ∃ publicKey,
      (faulty.state.2.publicKey service slot.keyId).Returns faulty.state.1 publicKey
        faulty.state.1 ∧
      (free.state.2.publicKey Partition.service slot.keyId).Returns free.state.1 publicKey
        free.state.1 := by
  intro service faulty free hready
  have hmem : slot.keyId ∉ rejected := ((status_provision_rejecting hslot).1 hready).1
  have hfree := separate_partition.sameAt_provision slot p
  have hfaulty := (separate_rejecting rejected).sameAt_provision slot p
  rw [turn_rejecting_of_not_mem hmem] at hfaulty
  rw [← hfaulty.status] at hready
  obtain ⟨raw, hfetch⟩ := returns_publicKey_of_turn hslot hready
  exact ⟨raw, hfetch rfl hfaulty, hfetch rfl hfree⟩

end Rejecting

/-! ## The main result -/

/-- **Slots fail on their own.**  Whatever the service answers, it is asked for one key for each
slot without one, in the order of the slots, and for nothing else.  The slots whose question was
answered have a key afterwards, all others have the status from before, and the number returned is
that of the slots that have a key then.  If the emulated partition rejects the imports of some keys,
just those slots come to have a key that are not rejected and would come to have one without the
faults, and they have the same public key; and another initialisation without the faults leads to
the table, the number and the keys that one would have led to from the start. -/
theorem provision_isolates_failures :
    (∀ {σ : Type} (service : SecureService σ) (s : σ) (table : KeyTable),
      let outcome := (provision service).run (s, table)
      let after := outcome.state.2
      let noted := (provision service.noting).run ((s, []), table)
      let asked := noted.state.1.2
      (noted.result = outcome.result ∧ noted.state.1.1 = outcome.state.1 ∧
        noted.state.2 = after) ∧
      (asked.map Inquiry.question =
        (KeySlot.all.filter fun slot => table.status slot = .notProvisioned).map fun slot =>
          Question.deriveKey slot.keyId slot.label slot.usage) ∧
      (∀ slot, table.status slot = .notProvisioned →
        (after.status slot = .keyGenerated ↔
          ⟨.deriveKey slot.keyId slot.label slot.usage, .ok ()⟩ ∈ asked) ∧
        (after.status slot = .keyGenerated ∨ after.status slot = .notProvisioned)) ∧
      (∀ slot, table.status slot ≠ .notProvisioned → after.status slot = table.status slot) ∧
      outcome.result = .ok (KeySlot.all.countP fun slot => after.status slot ≠ .notProvisioned)) ∧
    ∀ (rejected : List KeyId) (s : Partition) (table : KeyTable),
      let injector := Interference.disturb { rejectImport := rejected } Partition.service
      let free := (provision Partition.service).run (s, table)
      let faulty := (provision injector).run (s, table)
      let again := (provision Partition.service).run faulty.state
      (∀ slot, table.status slot = .notProvisioned →
        (faulty.state.2.status slot ≠ .notProvisioned ↔
          slot.keyId ∉ rejected ∧ free.state.2.status slot ≠ .notProvisioned) ∧
        (faulty.state.2.status slot ≠ .notProvisioned → ∃ publicKey,
          (faulty.state.2.publicKey injector slot.keyId).Returns faulty.state.1 publicKey
            faulty.state.1 ∧
          (free.state.2.publicKey Partition.service slot.keyId).Returns free.state.1 publicKey
            free.state.1)) ∧
      again.result = free.result ∧ again.state.2 = free.state.2 ∧
        ∀ id, again.state.1.key? id = free.state.1.key? id := by
  refine ⟨fun service s table => ?_, fun rejected s table => ?_⟩
  · intro outcome after noted asked
    obtain ⟨more, hresult, hstate, haccounts⟩ := provision_noting service (s, table)
    have hasked : asked = more := congrArg (fun p => p.1.2) hstate
    rw [hasked]
    exact ⟨⟨hresult, congrArg (fun p => p.1.1) hstate, congrArg Prod.snd hstate⟩,
      haccounts.questions, fun slot => haccounts.status_of_notProvisioned,
      fun slot hslot => haccounts.kept slot (.inl hslot), result_provision service (s, table)⟩
  · rw [Interference.disturb_rejectImport]
    intro injector free faulty again
    have htable : again.state.2 = free.state.2 := table_provision_again rejected (s, table)
    refine ⟨fun slot hslot => ⟨status_provision_rejecting hslot,
      exists_publicKey_rejecting hslot⟩, ?_, htable, key?_provision_again rejected (s, table)⟩
    rw [result_provision, result_provision, htable]

/-- On a partition that can hold the signing key, an import that is rejected for another slot leaves
the signing slot with its key; one that is rejected for the signing slot leaves it without, until it
is initialised again.  A slot with a certificate keeps it. -/
theorem provision_isolates_failures_ones :
    let s : Partition := { hardwareKey := Device.ones, labelSuffix := "-lab" }
    let table := empty.set .clientTls .certificateGenerated
    let other := Interference.disturb { rejectImport := [KeyId.coseEncrypt] } Partition.service
    let own := Interference.disturb { rejectImport := [KeyId.coseSign] } Partition.service
    let spared := (provision other).run (s, table)
    let faulty := (provision own).run (s, table)
    let again := (provision Partition.service).run faulty.state
    (∃ publicKey, (spared.state.2.publicKey other KeySlot.coseSign.keyId).Returns spared.state.1
      publicKey spared.state.1) ∧
    faulty.state.2.status .coseSign = .notProvisioned ∧
    again.state.2.hasKey .coseSign = true ∧
    again.state.2.status .clientTls = .certificateGenerated := by
  -- for any partition and table, so that nothing is computed with these
  have hany : ∀ (s : Partition) (table : KeyTable), s.CanHold .coseSign Device.onesKey →
      table.status .coseSign = .notProvisioned → table.status .clientTls = .certificateGenerated →
      let other := Interference.disturb { rejectImport := [KeyId.coseEncrypt] } Partition.service
      let own := Interference.disturb { rejectImport := [KeyId.coseSign] } Partition.service
      let spared := (provision other).run (s, table)
      let faulty := (provision own).run (s, table)
      let again := (provision Partition.service).run faulty.state
      (∃ publicKey, (spared.state.2.publicKey other KeySlot.coseSign.keyId).Returns spared.state.1
        publicKey spared.state.1) ∧
      faulty.state.2.status .coseSign = .notProvisioned ∧
      again.state.2.hasKey .coseSign = true ∧
      again.state.2.status .clientTls = .certificateGenerated := by
    intro s table hhold hnone htls other own spared faulty again
    obtain ⟨hservice, hpartition⟩ := provision_isolates_failures
    obtain ⟨-, -, -, hkept, -⟩ := hservice Partition.service s table
    obtain ⟨hspared, -⟩ := hpartition [KeyId.coseEncrypt] s table
    obtain ⟨hfaulty, -, hagain, -⟩ := hpartition [KeyId.coseSign] s table
    have hfree : ((provision Partition.service).run (s, table)).state.2.hasKey .coseSign =
        true := by
      rw [(returns_provision Partition.service (s, table)).2]
      exact hasKey_turns (KeySlot.mem_all _) hhold
    refine ⟨?_, ?_, ?_, ?_⟩
    · obtain ⟨hready, hkey⟩ := hspared .coseSign hnone
      obtain ⟨publicKey, hfetch, -⟩ := hkey (hready.2 ⟨by decide, of_decide_eq_true hfree⟩)
      exact ⟨publicKey, hfetch⟩
    · by_contra hne
      exact ((hfaulty .coseSign hnone).1.1 hne).1 (List.mem_singleton_self _)
    · rw [hagain]
      exact hfree
    · rw [hagain, hkept .clientTls (by rw [htls]; nofun), htls]
  exact hany _ _ (Device.canHold_ones rfl rfl rfl rfl) rfl rfl

end KeyTable

end DeviceIdentity

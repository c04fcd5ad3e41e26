import DeviceIdentity.Proofs.Device.History
import DeviceIdentity.Proofs.Key.Threads

/-!
# Statuses under interleaving

A thread that provisions a slot looks at its status, has the key derived, and records the key
without looking again.  In between, another thread may have done the same and a third one recorded a
certificate, which is then lost.  This takes two threads that both found the slot without a key.  As
long as there are no two such threads at a time, no status goes back.

* `Point.seen?` — what a thread has seen of a slot and relies on; `seen?_step` — it relies on
  nothing else.
* `World.Certifies` — a thread that relies on a key is right; `certifies_after` — always.
* `World.Provisions` — a thread that relies on there being no key is right; `provisions_after` —
  while at most one thread at a time does, which is `World.Alone`.
* `hasKey_after`, `not_le_after_iff`, `le_after` — what an event does to a status;
  `invariant_run` — and a run.
* **`status_run`** — a slot that has a key keeps it in every interleaving, and its status never goes
  back while at most one thread at a time provisions it.
* **`certified_goes_back`** — with two threads that provision, it does.
-/

namespace DeviceIdentity

namespace KeyStatus

lemma le_refl (a : KeyStatus) : a ≤ a := Nat.le_refl a.number

lemma le_trans {a b c : KeyStatus} (h : a ≤ b) (h' : b ≤ c) : a ≤ c := Nat.le_trans h h'

lemma le_certificateGenerated (a : KeyStatus) : a ≤ certificateGenerated := by
  cases a <;> decide

lemma not_le_keyGenerated {a : KeyStatus} (h : ¬a ≤ keyGenerated) : a = certificateGenerated := by
  cases a with
  | certificateGenerated => rfl
  | _ => exact (h (by decide)).elim

end KeyStatus

namespace Threads

variable {σ : Type} {service : SecureService σ} {slot : KeySlot}

/-! ## One step of a thread -/

namespace Point

/-- Whether the thread has seen a key for a slot, if what it stores next depends on that. -/
def seen? : Point → Option (KeySlot × Bool)
  | derive slot _ | fill slot _ => some (slot, false)
  | certify slot => some (slot, true)
  | _ => none

@[simp] lemma seen?_counting (ready : Nat) (slots : List KeySlot) :
    (counting ready slots).seen? = none := by
  cases slots <;> rfl

@[simp] lemma seen?_looking (slots : List KeySlot) : (looking slots).seen? = none := by
  cases slots <;> rfl

lemma seen?_start (call : Call) : call.start.seen? = none := by
  cases call with
  | init => rfl
  | recordCertificate id =>
    rw [Call.start]
    split <;> rfl
  | applyResponse octets =>
    rw [Call.start]
    split <;> rfl

variable {d : DeviceState σ} {point : Point}

/-- A step leaves the table alone, or it records a key or a certificate. -/
lemma table_step (service : SecureService σ) (d : DeviceState σ) (point : Point) :
    (point.step service d).1.table = d.table ∨
      (∃ other later, point = fill other later ∧
        (point.step service d).1.table = d.table.set other .keyGenerated) ∨
      (∃ other, point = certify other ∧
        (point.step service d).1.table = d.table.set other .certificateGenerated) := by
  cases point with
  | fill other later => exact .inr (.inl ⟨other, later, rfl, rfl⟩)
  | certify other => exact .inr (.inr ⟨other, rfl, rfl⟩)
  | _ => exact .inl rfl

/-- What a thread relies on after a step, it relied on before or has just seen. -/
lemma seen?_step {key : Bool} (h : (point.step service d).2.seen? = some (slot, key)) :
    point.seen? = some (slot, key) ∨ d.table.hasKey slot = key := by
  cases point with
  | look other later =>
    right
    by_cases hkey : d.table.hasKey other = true
    · rw [step_look_of_hasKey hkey, seen?_looking] at h
      cases h
    · rw [step_look_of_not_hasKey hkey] at h
      obtain ⟨rfl, rfl⟩ := Prod.mk.inj (Option.some.inj h)
      exact Bool.eq_false_iff.2 hkey
  | derive other later =>
    left
    rcases (service.deriveKey other.keyId other.label other.usage).returns_or_fails d.service with
      ⟨u, hreturns⟩ | ⟨e, hfails⟩
    · rw [step_derive_of_returns hreturns] at h
      exact h
    · rw [step_derive_of_fails hfails, seen?_looking] at h
      cases h
  | fill other later =>
    rw [step, seen?_looking] at h
    cases h
  | count other later ready =>
    rw [step, seen?_counting] at h
    cases h
  | handOver record => cases h
  | check other responding =>
    right
    by_cases hkey : d.table.hasKey other = true
    · rw [step_check_of_hasKey hkey] at h
      obtain ⟨rfl, rfl⟩ := Prod.mk.inj (Option.some.inj h)
      exact hkey
    · rw [step_check_of_not_hasKey hkey] at h
      cases responding <;> cases h
  | certify other => cases h
  | ended answer => cases h

/-- Whether the thread is in a call that provisions the slots. -/
def initialises : Point → Bool
  | look _ _ | derive _ _ | fill _ _ | count _ _ _ => true
  | _ => false

lemma initialises_of_seen? (h : point.seen? = some (slot, false)) : point.initialises = true := by
  cases point with
  | derive => rfl
  | fill => rfl
  | _ => cases h

lemma initialises_step (h : point.initialises = false) :
    (point.step service d).2.initialises = false := by
  cases point with
  | handOver => rfl
  | check slot responding =>
    by_cases hkey : d.table.hasKey slot = true
    · rw [step_check_of_hasKey hkey]
      rfl
    · rw [step_check_of_not_hasKey hkey]
      cases responding <;> rfl
  | certify => rfl
  | ended => rfl
  | _ => cases h

lemma initialises_start {call : Call} (h : call ≠ .init) : call.start.initialises = false := by
  cases call with
  | init => exact (h rfl).elim
  | recordCertificate id =>
    rw [Call.start]
    split <;> rfl
  | applyResponse octets =>
    rw [Call.start]
    split <;> rfl

end Point

/-! ## Worlds -/

namespace World

variable {w : World σ} {event : Event} {thread : Nat}

/-- Every thread that has seen a key for the slot is right. -/
def Certifies (w : World σ) (slot : KeySlot) : Prop :=
  ∀ thread, (w.point thread).seen? = some (slot, true) → w.shared.table.hasKey slot = true

/-- Every thread that has seen no key for the slot is right. -/
def Provisions (w : World σ) (slot : KeySlot) : Prop :=
  ∀ thread, (w.point thread).seen? = some (slot, false) → w.shared.table.hasKey slot = false

/-- At most one thread has seen no key for the slot. -/
def Alone (w : World σ) (slot : KeySlot) : Prop :=
  ∀ thread other, (w.point thread).seen? = some (slot, false) →
    (w.point other).seen? = some (slot, false) → thread = other

section Single

variable {d d' : DeviceState σ} {here there : Point} {answer : Except Failure Answer}

lemma move_move : (w.move thread d here).move thread d' there = w.move thread d' there := by
  simp only [move, Function.update_idem]

lemma after_call (h : w.point thread = .ended answer) (call : Call) :
    w.after service (.call thread call) = w.move thread w.shared call.start := by
  simp only [after, h]

lemma after_step (h : w.point thread = here) (hstep : here.step service w.shared = (d, there)) :
    w.after service (.step thread) = w.move thread d there := by
  simp only [after, h, hstep]

end Single

/-- An event is a step of a thread, or it leaves the shared state alone and makes no thread rely on
anything new. -/
lemma after_cases (service : SecureService σ) (w : World σ) (event : Event) :
    ((w.after service event).shared = w.shared ∧ ∀ thread seen,
      ((w.after service event).point thread).seen? = some seen →
        (w.point thread).seen? = some seen) ∨
    ∃ thread, event = .step thread ∧ w.after service event =
      w.move thread ((w.point thread).step service w.shared).1
        ((w.point thread).step service w.shared).2 := by
  cases event with
  | step thread => exact .inr ⟨thread, rfl, rfl⟩
  | call thread call =>
    left
    rw [after]
    split
    · refine ⟨rfl, fun other seen h => ?_⟩
      by_cases hother : other = thread
      · rw [hother, point_move_self, Point.seen?_start] at h
        cases h
      · rwa [point_move_of_ne _ _ _ _ hother] at h
    · exact ⟨rfl, fun _ _ h => h⟩

/-- What a thread relies on after an event, it relied on before or has just seen. -/
lemma seen?_after {key : Bool}
    (h : ((w.after service event).point thread).seen? = some (slot, key)) :
    (w.point thread).seen? = some (slot, key) ∨ w.shared.table.hasKey slot = key := by
  rcases after_cases service w event with ⟨-, hkeep⟩ | ⟨stepping, -, hstep⟩
  · exact .inl (hkeep thread _ h)
  · rw [hstep] at h
    by_cases hthread : thread = stepping
    · rw [hthread, point_move_self] at h
      rw [hthread]
      exact Point.seen?_step h
    · rw [point_move_of_ne _ _ _ _ hthread] at h
      exact .inl h

/-- What an event does to the table, and which thread does it. -/
lemma table_after (service : SecureService σ) (w : World σ) (event : Event) :
    (w.after service event).shared.table = w.shared.table ∨
      (∃ thread other later, event = .step thread ∧ w.point thread = .fill other later ∧
        w.after service event = w.move thread
          { w.shared with table := w.shared.table.set other .keyGenerated } (.looking later)) ∨
      (∃ thread other, w.point thread = .certify other ∧
        (w.after service event).shared.table =
          w.shared.table.set other .certificateGenerated) := by
  rcases after_cases service w event with ⟨hshared, -⟩ | ⟨thread, hevent, hstep⟩
  · rw [hshared]
    exact .inl rfl
  · rcases Point.table_step service w.shared (w.point thread) with
      htable | ⟨other, later, hfill, -⟩ | ⟨other, hcertify, htable⟩
    · rw [hstep]
      exact .inl htable
    · rw [hfill] at hstep
      exact .inr (.inl ⟨thread, other, later, hevent, hfill, hstep⟩)
    · rw [hstep]
      exact .inr (.inr ⟨thread, other, hcertify, htable⟩)

/-- A slot that has a key keeps it. -/
lemma hasKey_after (h : w.shared.table.hasKey slot = true) :
    (w.after service event).shared.table.hasKey slot = true := by
  rcases table_after service w event with
    htable | ⟨thread, other, later, -, -, hafter⟩ | ⟨thread, other, -, htable⟩
  · rwa [htable]
  · rw [hafter, shared_move]
    exact KeyTable.hasKey_set_of_hasKey (by decide) (.inr h)
  · rw [htable]
    exact KeyTable.hasKey_set_of_hasKey (by decide) (.inr h)

lemma certifies_after (h : w.Certifies slot) : (w.after service event).Certifies slot := by
  intro thread hseen
  rcases seen?_after hseen with hbefore | hkey
  · exact hasKey_after (h thread hbefore)
  · exact hasKey_after hkey

/-- While no other thread has seen no key for a slot, the one that has stays right. -/
lemma provisions_after (hcertifies : w.Certifies slot) (hprovisions : w.Provisions slot)
    (halone : w.Alone slot) : (w.after service event).Provisions slot := by
  intro thread hseen
  have hkey : w.shared.table.hasKey slot = false := by
    rcases seen?_after hseen with hbefore | hkey
    · exact hprovisions thread hbefore
    · exact hkey
  rcases table_after service w event with
    htable | ⟨filling, other, later, -, hfill, hafter⟩ | ⟨certifying, other, hcertify, htable⟩
  · rwa [htable]
  · rw [hafter] at hseen ⊢
    by_cases hother : slot = other
    · -- the thread that fills the slot is the only one that relies on it, and it no longer does
      subst hother
      have hfilling : (w.point filling).seen? = some (slot, false) := by rw [hfill, Point.seen?]
      by_cases hthread : thread = filling
      · rw [hthread, point_move_self, Point.seen?_looking] at hseen
        cases hseen
      · rw [point_move_of_ne _ _ _ _ hthread] at hseen
        exact (hthread (halone thread filling hseen hfilling)).elim
    · rwa [shared_move, KeyTable.hasKey_set_of_ne hother]
  · rw [htable]
    by_cases hother : slot = other
    · subst hother
      have hcertifying : (w.point certifying).seen? = some (slot, true) := by
        rw [hcertify, Point.seen?]
      rw [hcertifies certifying hcertifying] at hkey
      cases hkey
    · rwa [KeyTable.hasKey_set_of_ne hother]

/-- A status goes back where a thread records a key over a certificate, and nowhere else. -/
lemma not_le_after_iff :
    ¬w.status slot ≤ (w.after service event).status slot ↔
      ∃ thread later, event = .step thread ∧ w.point thread = .fill slot later ∧
        w.status slot = .certificateGenerated := by
  unfold status
  constructor
  · intro hback
    rcases table_after service w event with
      htable | ⟨thread, other, later, hevent, hfill, hafter⟩ | ⟨thread, other, -, htable⟩
    · rw [htable] at hback
      exact (hback (KeyStatus.le_refl _)).elim
    · rw [hafter, shared_move] at hback
      by_cases hother : slot = other
      · subst hother
        rw [KeyTable.status_set_self] at hback
        exact ⟨thread, later, hevent, hfill, KeyStatus.not_le_keyGenerated hback⟩
      · rw [KeyTable.status_set_of_ne _ _ hother] at hback
        exact (hback (KeyStatus.le_refl _)).elim
    · rw [htable] at hback
      by_cases hother : slot = other
      · subst hother
        rw [KeyTable.status_set_self] at hback
        exact (hback (KeyStatus.le_certificateGenerated _)).elim
      · rw [KeyTable.status_set_of_ne _ _ hother] at hback
        exact (hback (KeyStatus.le_refl _)).elim
  · rintro ⟨thread, later, rfl, hfill, hstatus⟩
    have hafter : w.after service (.step thread) = _ := after_step hfill rfl
    rw [hafter, shared_move, KeyTable.status_set_self, hstatus]
    decide

/-- While the threads that have seen no key for a slot are right, its status does not go back. -/
lemma le_after (hprovisions : w.Provisions slot) :
    w.status slot ≤ (w.after service event).status slot := by
  by_contra hback
  obtain ⟨thread, later, -, hfill, hstatus⟩ := not_le_after_iff.1 hback
  have hkey : w.shared.table.hasKey slot = true := by
    rw [status] at hstatus
    rw [KeyTable.hasKey, hstatus]
    rfl
  rw [hprovisions thread (by rw [hfill, Point.seen?])] at hkey
  cases hkey

/-! ## What the steps of one call do to the world -/

section Steps

variable {answer : Except Failure Answer}

/-- A thread begins to provision and sees no key for the first slot. -/
lemma run_look (h : w.point thread = .ended answer)
    (hkey : ¬w.shared.table.hasKey .clientTls = true) :
    w.run service [.call thread .init, .step thread] =
      w.move thread w.shared (.derive .clientTls [.coseSign, .coseEncrypt]) := by
  have hstart : Call.init.start = .look .clientTls [.coseSign, .coseEncrypt] := rfl
  rw [run, List.foldl_cons, List.foldl_cons, List.foldl_nil, after_call h, hstart,
    after_step (point_move_self ..) (Point.step_look_of_not_hasKey hkey), move_move]
  rfl

/-- It goes on and records the key. -/
lemma run_fill {s : σ} {later : List KeySlot} (h : w.point thread = .derive slot later)
    (hderive : (service.deriveKey slot.keyId slot.label slot.usage).Returns w.shared.service () s) :
    w.run service [.step thread, .step thread] =
      w.move thread
        { w.shared with service := s, table := w.shared.table.set slot .keyGenerated }
        (.looking later) := by
  rw [run, List.foldl_cons, List.foldl_cons, List.foldl_nil,
    after_step h (Point.step_derive_of_returns hderive), after_step (point_move_self ..) rfl,
    move_move]
  rfl

/-- A thread records a certificate. -/
lemma run_certify (h : w.point thread = .ended answer)
    (hkey : w.shared.table.hasKey slot = true) :
    w.run service [.call thread (.recordCertificate slot.keyId), .step thread, .step thread] =
      w.move thread
        { w.shared with table := w.shared.table.set slot .certificateGenerated }
        (.ended (.ok .done)) := by
  have hstart : (Call.recordCertificate slot.keyId).start = .check slot false := by
    simp only [Call.start, KeyTable.slot_keyId]
  rw [run, List.foldl_cons, List.foldl_cons, List.foldl_cons, List.foldl_nil, after_call h, hstart,
    after_step (point_move_self ..) (Point.step_check_of_hasKey hkey),
    after_step (point_move_self ..) rfl, move_move, move_move]
  rfl

end Steps

/-! ## Runs -/

lemma run_append (service : SecureService σ) (w : World σ) (events later : List Event) :
    w.run service (events ++ later) = (w.run service events).run service later :=
  List.foldl_append ..

lemma hasKey_run {events : List Event} (h : w.shared.table.hasKey slot = true) :
    (w.run service events).shared.table.hasKey slot = true := by
  induction events generalizing w with
  | nil => exact h
  | cons event rest ih => exact ih (hasKey_after h)

/-- The invariant of a run in which at most one thread at a time provisions the slot. -/
lemma invariant_run {events : List Event} (hcertifies : w.Certifies slot)
    (hprovisions : w.Provisions slot)
    (halone : ∀ front, front <+: events → (w.run service front).Alone slot) :
    (w.run service events).Certifies slot ∧ (w.run service events).Provisions slot ∧
      w.status slot ≤ (w.run service events).status slot := by
  -- the status keeps its place only while the threads are right, so the three go together
  induction events generalizing w with
  | nil => exact ⟨hcertifies, hprovisions, KeyStatus.le_refl _⟩
  | cons event rest ih =>
    have hnow : w.Alone slot := halone [] List.nil_prefix
    obtain ⟨hcertifies', hprovisions', hle⟩ := ih (certifies_after hcertifies)
      (provisions_after hcertifies hprovisions hnow)
      fun front hfront => halone (event :: front) (List.cons_prefix_cons.2 ⟨rfl, hfront⟩)
    exact ⟨hcertifies', hprovisions', KeyStatus.le_trans (le_after hprovisions) hle⟩

/-- Every thread but `k` is in a call that leaves provisioning alone. -/
def OnlyInitialises (w : World σ) (k : Nat) : Prop :=
  ∀ thread, thread ≠ k → (w.point thread).initialises = false

lemma OnlyInitialises.alone {k : Nat} (h : w.OnlyInitialises k) (slot : KeySlot) :
    w.Alone slot := by
  have hk : ∀ thread, (w.point thread).seen? = some (slot, false) → thread = k := by
    intro thread hseen
    by_contra hthread
    have hinit := Point.initialises_of_seen? hseen
    rw [h thread hthread] at hinit
    cases hinit
  exact fun thread other hthread hother => (hk thread hthread).trans (hk other hother).symm

lemma onlyInitialises_after {k : Nat} (h : w.OnlyInitialises k)
    (hevent : ∀ thread, event = .call thread .init → thread = k) :
    (w.after service event).OnlyInitialises k := by
  intro thread hthread
  cases event with
  | step stepping =>
    by_cases hstepping : thread = stepping
    · subst hstepping
      rw [after, point_move_self]
      exact Point.initialises_step (h thread hthread)
    · rw [after, point_move_of_ne _ _ _ _ hstepping]
      exact h thread hthread
  | call calling call =>
    rw [after]
    split
    · by_cases hcalling : thread = calling
      · subst hcalling
        rw [point_move_self]
        refine Point.initialises_start fun hinit => hthread (hevent thread ?_)
        rw [hinit]
      · rw [point_move_of_ne _ _ _ _ hcalling]
        exact h thread hthread
    · exact h thread hthread

lemma onlyInitialises_run {k : Nat} {events : List Event} (h : w.OnlyInitialises k)
    (hevents : ∀ thread, .call thread .init ∈ events → thread = k) :
    (w.run service events).OnlyInitialises k := by
  induction events generalizing w with
  | nil => exact h
  | cons event rest ih =>
    refine ih (onlyInitialises_after h fun thread hevent => ?_) fun thread hrest => ?_
    · exact hevents thread (hevent ▸ List.mem_cons_self)
    · exact hevents thread (List.mem_cons_of_mem _ hrest)

lemma certifies_idle (d : DeviceState σ) (slot : KeySlot) : (idle d).Certifies slot := nofun

lemma provisions_idle (d : DeviceState σ) (slot : KeySlot) : (idle d).Provisions slot := nofun

/-- If one thread alone calls for provisioning, at most one thread at a time provisions a slot. -/
lemma alone_run {d : DeviceState σ} {k : Nat} {events front : List Event}
    (hinit : ∀ thread, .call thread .init ∈ events → thread = k) (hfront : front <+: events) :
    ((idle d).run service front).Alone slot := by
  have honly : ((idle d).run service front).OnlyInitialises k :=
    onlyInitialises_run (fun _ _ => rfl) fun thread hthread =>
      hinit thread (hfront.subset hthread)
  exact honly.alone slot

/-- While at most one thread at a time provisions the slot, its status never goes back. -/
lemma le_run {d : DeviceState σ} {events later : List Event}
    (halone : ∀ front, front <+: events ++ later → ((idle d).run service front).Alone slot) :
    ((idle d).run service events).status slot ≤
      ((idle d).run service (events ++ later)).status slot := by
  obtain ⟨hcertifies, hprovisions, -⟩ := invariant_run (certifies_idle d slot)
    (provisions_idle d slot)
    fun front hfront => halone front (hfront.trans (List.prefix_append events later))
  rw [run_append]
  refine (invariant_run hcertifies hprovisions fun front hfront => ?_).2.2
  rw [← run_append]
  exact halone _ ((List.prefix_append_right_inj events).2 hfront)

end World

/-! ## The main result -/

/-- **What interleaving does to statuses.**  The steps of a call, with nothing in between, do what
the whole call does.  In every interleaving of calls by any number of threads, a slot that has a key
keeps it, and its status goes back exactly where a thread records the key over a certificate.  While
at most one thread at a time has seen no key for a slot and goes on to provision it, the status of
the slot never goes back; and so it is if one thread alone calls for provisioning. -/
theorem status_run (service : SecureService σ) (d : DeviceState σ) (slot : KeySlot) :
    (∀ call : Call, Leads service (d, call.start)
      (((call.run service).run d).state, .ended ((call.run service).run d).result)) ∧
    (∀ events later, ((World.idle d).run service events).status slot ≠ .notProvisioned →
      ((World.idle d).run service (events ++ later)).status slot ≠ .notProvisioned) ∧
    (∀ events event, ¬((World.idle d).run service events).status slot ≤
        ((World.idle d).run service (events ++ [event])).status slot ↔
      ∃ thread later, event = .step thread ∧
        ((World.idle d).run service events).point thread = .fill slot later ∧
        ((World.idle d).run service events).status slot = .certificateGenerated) ∧
    (∀ events later,
      (∀ front, front <+: events ++ later → ((World.idle d).run service front).Alone slot) →
        ((World.idle d).run service events).status slot ≤
          ((World.idle d).run service (events ++ later)).status slot) ∧
    (∀ k events later, (∀ thread, .call thread .init ∈ events ++ later → thread = k) →
      ((World.idle d).run service events).status slot ≤
        ((World.idle d).run service (events ++ later)).status slot) := by
  refine ⟨leads_of_call, ?_, ?_, fun _ _ => World.le_run, ?_⟩
  · intro events later hstatus
    rw [World.run_append]
    exact of_decide_eq_true (World.hasKey_run (decide_eq_true hstatus))
  · intro events event
    rw [World.run_append]
    exact World.not_le_after_iff
  · exact fun k events later hinit => World.le_run fun front => World.alone_run hinit

/-- Two threads see that a slot has no key, one of them provisions it, and a third one records a
certificate. -/
def certified : List Event :=
  [.call 0 .init, .step 0] ++ [.call 1 .init, .step 1] ++ [.step 1, .step 1] ++
    [.call 2 (.recordCertificate KeySlot.clientTls.keyId), .step 2, .step 2]

/-- The first thread goes on. -/
def stale : List Event := [.step 0, .step 0]

lemma status_certified_stale {d : DeviceState σ} {s s' : σ}
    (hempty : d.table.hasKey .clientTls = false)
    (hderive : (service.deriveKey KeySlot.clientTls.keyId KeySlot.clientTls.label
      KeySlot.clientTls.usage).Returns d.service () s)
    (hagain : (service.deriveKey KeySlot.clientTls.keyId KeySlot.clientTls.label
      KeySlot.clientTls.usage).Returns s () s') :
    ((World.idle d).run service certified).status .clientTls = .certificateGenerated ∧
      ((World.idle d).run service (certified ++ stale)).status .clientTls = .keyGenerated := by
  let w₁ := (World.idle d).move 0 d (.derive .clientTls [.coseSign, .coseEncrypt])
  let w₂ := w₁.move 1 d (.derive .clientTls [.coseSign, .coseEncrypt])
  let generated : DeviceState σ :=
    { d with service := s, table := d.table.set .clientTls .keyGenerated }
  let w₃ := w₂.move 1 generated (.looking [.coseSign, .coseEncrypt])
  let w₄ := w₃.move 2
    { generated with table := generated.table.set .clientTls .certificateGenerated }
    (.ended (.ok .done))
  have hkey : ¬d.table.hasKey .clientTls = true := by simp [hempty]
  have hw₁ : (World.idle d).run service [.call 0 .init, .step 0] = w₁ := World.run_look rfl hkey
  have hw₂ : w₁.run service [.call 1 .init, .step 1] = w₂ := World.run_look rfl hkey
  have hw₃ : w₂.run service [.step 1, .step 1] = w₃ := World.run_fill rfl hderive
  have hw₄ : w₃.run service [.call 2 (.recordCertificate KeySlot.clientTls.keyId), .step 2,
      .step 2] = w₄ := World.run_certify rfl (by simp [w₃, generated, KeyTable.hasKey])
  have hcertified : (World.idle d).run service certified = w₄ := by
    rw [certified, World.run_append, World.run_append, World.run_append, hw₁, hw₂, hw₃, hw₄]
  refine ⟨?_, ?_⟩
  · rw [hcertified]
    exact KeyTable.status_set_self _ _ _
  · have hw₅ : w₄.run service stale = _ := World.run_fill rfl hagain
    rw [World.run_append, hcertified, hw₅]
    exact KeyTable.status_set_self _ _ _

/-! ## On the emulated partition -/

set_option maxRecDepth 100000 in
/-- A hardware key of ones gives a key for TLS clients. -/
lemma isSome_slotScalar_ones :
    (Ecdsa.PrivateKey.ofOctets? (Device.slotScalar Device.ones "" .clientTls)).isSome = true := by
  simp only [Device.slotScalar, Hkdf.derive, Hkdf.blocks, Hmac.mac, Sha256.hash_eq]
  decide +kernel

/-- A new device of this hardware key. -/
def onesDevice : DeviceState Partition := { service := { hardwareKey := Device.ones } }

/-- The partition derives the key of the slot, and accepts it a second time. -/
lemma returns_deriveKey_onesDevice :
    ∃ s s',
      (Partition.service.deriveKey KeySlot.clientTls.keyId KeySlot.clientTls.label
        KeySlot.clientTls.usage).Returns onesDevice.service () s ∧
      (Partition.service.deriveKey KeySlot.clientTls.keyId KeySlot.clientTls.label
        KeySlot.clientTls.usage).Returns s () s' := by
  obtain ⟨key, hkey⟩ := Option.isSome_iff_exists.1 isSome_slotScalar_ones
  have hhold : onesDevice.service.CanHold .clientTls key := ⟨rfl, hkey, .inl rfl⟩
  obtain ⟨s, hderive⟩ := hhold.returns_deriveKey
  have hafter := hhold.deriveKey .clientTls
  rw [hderive.2] at hafter
  obtain ⟨s', hagain⟩ := hafter.returns_deriveKey
  exact ⟨s, s', hderive, hagain⟩

/-- **With two threads that provision, a certificate is lost.**  On a new device, the status of the
slot for TLS clients goes back from the last to the one before. -/
theorem certified_goes_back :
    ((World.idle onesDevice).run Partition.service certified).status .clientTls =
        .certificateGenerated ∧
      ((World.idle onesDevice).run Partition.service (certified ++ stale)).status .clientTls =
        .keyGenerated ∧
      ¬ ∀ (d : DeviceState Partition) (slot : KeySlot) (events later : List Event),
        ((World.idle d).run Partition.service events).status slot ≤
          ((World.idle d).run Partition.service (events ++ later)).status slot := by
  obtain ⟨s, s', hderive, hagain⟩ := returns_deriveKey_onesDevice
  obtain ⟨hbefore, hafter⟩ := status_certified_stale rfl hderive hagain
  refine ⟨hbefore, hafter, fun hclaim => ?_⟩
  have hle := hclaim onesDevice .clientTls certified stale
  rw [hbefore, hafter] at hle
  exact absurd hle (by decide)

/-- One thread provisions a new device and another one records a certificate; no status goes
back. -/
theorem status_run_onesDevice :
    let provision : List Event := [.call 0 .init, .step 0] ++ [.step 0, .step 0]
    let certify : List Event :=
      [.call 1 (.recordCertificate KeySlot.clientTls.keyId), .step 1, .step 1]
    let start := World.idle onesDevice
    let before := start.run Partition.service provision
    let after := start.run Partition.service (provision ++ certify)
    before.status .clientTls = .keyGenerated ∧
      start.status .clientTls ≤ before.status .clientTls ∧
      after.status .clientTls ≠ .notProvisioned ∧
      before.status .clientTls ≤ after.status .clientTls := by
  intro provision certify start before after
  obtain ⟨s, -, hderive, -⟩ := returns_deriveKey_onesDevice
  obtain ⟨-, hkeep, -, halone, hone⟩ := status_run Partition.service onesDevice .clientTls
  let looked := start.move 0 onesDevice (.derive .clientTls [.coseSign, .coseEncrypt])
  have hlook : start.run Partition.service [.call 0 .init, .step 0] = looked :=
    World.run_look rfl (by decide)
  have hfill : looked.run Partition.service [.step 0, .step 0] = _ := World.run_fill rfl hderive
  have hbefore : before.status .clientTls = .keyGenerated := by
    have hsplit : before = looked.run Partition.service [.step 0, .step 0] := by
      rw [← hlook, ← World.run_append]
    rw [hsplit, hfill]
    exact KeyTable.status_set_self _ _ _
  have hthread : ∀ thread, .call thread .init ∈ provision ++ certify → thread = 0 := by
    simp [provision, certify]
  refine ⟨hbefore, hone 0 [] provision (by simp [provision]), ?_, ?_⟩
  · refine hkeep provision certify ?_
    rw [hbefore]
    decide
  · exact halone provision certify fun front => World.alone_run hthread

end Threads

end DeviceIdentity

import Mathlib.Logic.Function.Basic
import Mathlib.Logic.Relation
import DeviceIdentity.Proofs.CaExchange

/-!
# Threads that use one key table

The status of a slot is a number that is read and written at once, so other threads can come between
the steps of a call.  A call is therefore taken apart into its single steps: reading one status,
asking the service once, storing one status.  Between two steps a thread stands at a `Point`, which
says what it has found out so far and what it does next.

* `Call` — what a thread can call; `Call.run` — the call as a whole.
* `Point.step` — the next step of a thread.
* **`leads_of_call`** — the steps of a call, with nothing in between, do what the whole call does.
* `World` — the shared state and where each thread stands; `World.after` — an interleaving.
-/

namespace DeviceIdentity

namespace Threads

open DeviceIdentity.Action (Fails Returns)

/-! ## Calls -/

/-- What a thread calls. -/
inductive Call where
  | init
  | recordCertificate (id : KeyId)
  | applyResponse (octets : Bytes)

/-- What a call answers: how many slots have a key, or only that it is done. -/
inductive Answer where
  | ready (slots : Nat)
  | done

variable {σ : Type}

/-- The call as a whole. -/
def Call.run (service : SecureService σ) : Call → Action (DeviceState σ) Answer
  | init => return .ready (← DeviceState.onKeys (KeyTable.provision service))
  | recordCertificate id => do
    DeviceState.onTable (KeyTable.recordCertificate id)
    return .done
  | applyResponse octets => do
    Device.applyResponse octets
    return .done

/-! ## Points -/

/-- Where a thread stands. -/
inductive Point where
  /-- It looks at the status of `slot` next, and at those of `later` after that. -/
  | look (slot : KeySlot) (later : List KeySlot)
  /-- It has seen no key for `slot`, and has the service derive it next. -/
  | derive (slot : KeySlot) (later : List KeySlot)
  /-- The service has the key of `slot`, which is recorded next. -/
  | fill (slot : KeySlot) (later : List KeySlot)
  /-- It has counted `ready` slots with a key, and looks at `slot` next. -/
  | count (slot : KeySlot) (later : List KeySlot) (ready : Nat)
  /-- It stores a provisioning record next. -/
  | handOver (record : ProvisionRecord)
  /-- It looks whether `slot` has a key that can be certified; when it has none, this fails unless
  the certificate came with a response. -/
  | check (slot : KeySlot) (responding : Bool)
  /-- It has seen a key for `slot`, whose certificate is recorded next. -/
  | certify (slot : KeySlot)
  /-- It calls nothing, having got an answer. -/
  | ended (answer : Except Failure Answer)

namespace Point

/-- Before the slots that are left are counted. -/
def counting (ready : Nat) : List KeySlot → Point
  | [] => ended (.ok (.ready ready))
  | slot :: later => count slot later ready

/-- Before the slots that are left are looked at; then all of them are counted. -/
def looking : List KeySlot → Point
  | [] => counting 0 KeySlot.all
  | slot :: later => look slot later

/-- The next step of a thread: what becomes of the shared state, and where the thread stands
then. -/
def step (service : SecureService σ) (d : DeviceState σ) : Point → DeviceState σ × Point
  | look slot later => (d, if d.table.hasKey slot then looking later else derive slot later)
  | derive slot later =>
    let outcome := (service.deriveKey slot.keyId slot.label slot.usage).run d.service
    ({ d with service := outcome.state },
      match outcome.result with
      | .ok () => fill slot later
      | .error _ => looking later)
  | fill slot later => ({ d with table := d.table.set slot .keyGenerated }, looking later)
  | count slot later ready =>
    (d, counting (if d.table.hasKey slot then ready + 1 else ready) later)
  | handOver record => ({ d with handOver := some record }, check .clientTls true)
  | check slot responding =>
    (d,
      if d.table.hasKey slot then certify slot
      else if responding then ended (.ok .done)
      else ended (.error (.invalidInput (slot.label ++ " has no key to certify"))))
  | certify slot =>
    ({ d with table := d.table.set slot .certificateGenerated }, ended (.ok .done))
  | ended answer => (d, ended answer)

section Step

variable {service : SecureService σ} {d : DeviceState σ} {slot : KeySlot} {later : List KeySlot}
  {s : σ}

lemma step_look_of_hasKey (h : d.table.hasKey slot = true) :
    (look slot later).step service d = (d, looking later) := by
  rw [step, if_pos h]

lemma step_look_of_not_hasKey (h : ¬d.table.hasKey slot = true) :
    (look slot later).step service d = (d, derive slot later) := by
  rw [step, if_neg h]

lemma step_check_of_hasKey {responding : Bool} (h : d.table.hasKey slot = true) :
    (check slot responding).step service d = (d, certify slot) := by
  rw [step, if_pos h]

lemma step_check_of_not_hasKey {responding : Bool} (h : ¬d.table.hasKey slot = true) :
    (check slot responding).step service d =
      (d, if responding then ended (.ok .done)
        else ended (.error (.invalidInput (slot.label ++ " has no key to certify")))) := by
  rw [step, if_neg h]

lemma step_derive_of_returns
    (h : (service.deriveKey slot.keyId slot.label slot.usage).Returns d.service () s) :
    (derive slot later).step service d = ({ d with service := s }, fill slot later) := by
  simp only [step, h.1, h.2]

lemma step_derive_of_fails {e : Failure}
    (h : (service.deriveKey slot.keyId slot.label slot.usage).Fails d.service e s) :
    (derive slot later).step service d = ({ d with service := s }, looking later) := by
  simp only [step, h.1, h.2]

end Step

end Point

/-- Where a thread stands when it begins a call. -/
def Call.start : Call → Point
  | init => .looking KeySlot.all
  | recordCertificate id =>
    match KeyTable.slot id with
    | .ok slot => .check slot false
    | .error failure => .ended (.error failure)
  | applyResponse octets =>
    match CaResponse.parse octets with
    | .ok response => .handOver response.record
    | .error failure => .ended (.error failure)

/-! ## A call with nothing in between -/

/-- The steps of one thread lead from one state and point to others. -/
def Leads (service : SecureService σ) : DeviceState σ × Point → DeviceState σ × Point → Prop :=
  Relation.ReflTransGen fun here there => here.2.step service here.1 = there

section Leads

variable {service : SecureService σ} {d : DeviceState σ}

lemma leads_counting (ready : Nat) (slots : List KeySlot) :
    Leads service (d, .counting ready slots)
      (d, .ended (.ok (.ready (ready + slots.countP d.table.hasKey)))) := by
  induction slots generalizing ready with
  | nil => exact .refl
  | cons slot later ih =>
    have hstep : (Point.count slot later ready).step service d =
      (d, .counting (if d.table.hasKey slot then ready + 1 else ready) later) := rfl
    refine .head hstep ?_
    split_ifs with hkey
    · rw [List.countP_cons_of_pos hkey, ← Nat.add_assoc, Nat.add_right_comm]
      exact ih (ready + 1)
    · rw [List.countP_cons_of_neg hkey]
      exact ih ready

lemma leads_ready : Leads service (d, .looking []) (d, .ended (.ok (.ready d.table.ready))) := by
  have hcount : Leads service (d, .counting 0 KeySlot.all) _ := leads_counting 0 KeySlot.all
  rwa [Nat.zero_add] at hcount

/-- The steps for one slot are one turn of provisioning. -/
lemma leads_turn (slot : KeySlot) (later : List KeySlot) :
    let p := KeyTable.turn service (d.service, d.table) slot
    Leads service (d, .look slot later) ({ d with service := p.1, table := p.2 },
      .looking later) := by
  intro p
  by_cases hkey : d.table.hasKey slot = true
  · have hp : p = (d.service, d.table) := KeyTable.turn_of_hasKey hkey
    rw [hp]
    exact .single (Point.step_look_of_hasKey hkey)
  · refine .head (Point.step_look_of_not_hasKey hkey) ?_
    rcases (service.deriveKey slot.keyId slot.label slot.usage).returns_or_fails d.service with
      ⟨u, hreturns⟩ | ⟨e, hfails⟩
    · have hp : p = _ := KeyTable.turn_of_returns hkey hreturns
      rw [hp]
      exact .head (Point.step_derive_of_returns hreturns) (.single rfl)
    · have hp : p = _ := KeyTable.turn_of_fails hkey hfails
      rw [hp]
      exact .single (Point.step_derive_of_fails hfails)

lemma leads_looking (slots : List KeySlot) :
    let p := slots.foldl (KeyTable.turn service) (d.service, d.table)
    Leads service (d, .looking slots) ({ d with service := p.1, table := p.2 }, .looking []) := by
  induction slots generalizing d with
  | nil => exact .refl
  | cons slot later ih => exact (leads_turn slot later).trans ih

/-- The steps lead to the end of the run of a call, if they lead to its state and result. -/
lemma leads_of_run {call : Call} {result : Except Failure Answer} {d' : DeviceState σ}
    (h : ((call.run service).run d).result = result ∧ ((call.run service).run d).state = d')
    (hleads : Leads service (d, call.start) (d', .ended result)) :
    Leads service (d, call.start)
      (((call.run service).run d).state, .ended ((call.run service).run d).result) := by
  rw [h.1, h.2]
  exact hleads

lemma leads_init :
    Leads service (d, Call.init.start)
      (((Call.init.run service).run d).state, .ended ((Call.init.run service).run d).result) := by
  have hrun : (Call.init.run service).Returns d _ _ :=
    Action.returns_bind.2 ⟨_, _,
      Action.returns_within.2 ⟨_, KeyTable.returns_provision service (d.service, d.table), rfl⟩,
      Action.returns_pure.2 ⟨rfl, rfl⟩⟩
  exact leads_of_run hrun ((leads_looking KeySlot.all).trans leads_ready)

lemma leads_recordCertificate (id : KeyId) :
    Leads service (d, (Call.recordCertificate id).start)
      ((((Call.recordCertificate id).run service).run d).state,
        .ended (((Call.recordCertificate id).run service).run d).result) := by
  cases hslot : KeyTable.slot id with
  | error e =>
    have hrun : ((Call.recordCertificate id).run service).Fails d e d :=
      Action.fails_bind.2 (.inl (Action.fails_within.2
        ⟨d.table, KeyTable.fails_recordCertificate_of_slot hslot, rfl⟩))
    have hstart : (Call.recordCertificate id).start = .ended (.error e) := by
      simp only [Call.start, hslot]
    refine leads_of_run hrun ?_
    rw [hstart]
    exact .refl
  | ok slot =>
    have hstart : (Call.recordCertificate id).start = .check slot false := by
      simp only [Call.start, hslot]
    by_cases hkey : d.table.hasKey slot = true
    · have hrun : ((Call.recordCertificate id).run service).Returns d .done _ :=
        Action.returns_bind.2 ⟨(), _, Action.returns_within.2
          ⟨_, KeyTable.returns_recordCertificate hslot hkey, rfl⟩,
          Action.returns_pure.2 ⟨rfl, rfl⟩⟩
      refine leads_of_run hrun ?_
      rw [hstart]
      exact .head (Point.step_check_of_hasKey hkey) (.single rfl)
    · have hrun : ((Call.recordCertificate id).run service).Fails d _ d :=
        Action.fails_bind.2 (.inl (Action.fails_within.2
          ⟨d.table, KeyTable.fails_recordCertificate hslot hkey, rfl⟩))
      refine leads_of_run hrun ?_
      rw [hstart]
      exact .single (Point.step_check_of_not_hasKey hkey)

lemma leads_applyResponse (octets : Bytes) :
    Leads service (d, (Call.applyResponse octets).start)
      ((((Call.applyResponse octets).run service).run d).state,
        .ended (((Call.applyResponse octets).run service).run d).result) := by
  cases hparse : CaResponse.parse octets with
  | error e =>
    have hrun : ((Call.applyResponse octets).run service).Fails d e d :=
      Action.fails_bind.2 (.inl (Device.fails_applyResponse hparse))
    have hstart : (Call.applyResponse octets).start = .ended (.error e) := by
      simp only [Call.start, hparse]
    refine leads_of_run hrun ?_
    rw [hstart]
    exact .refl
  | ok response =>
    have hstart : (Call.applyResponse octets).start = .handOver response.record := by
      simp only [Call.start, hparse]
    have hrun : ((Call.applyResponse octets).run service).Returns d .done _ :=
      Action.returns_bind.2
        ⟨(), _, Device.returns_applyResponse hparse, Action.returns_pure.2 ⟨rfl, rfl⟩⟩
    refine leads_of_run hrun ?_
    rw [hstart]
    refine .head (rfl : (Point.handOver response.record).step service d =
      ({ d with handOver := some response.record }, .check .clientTls true)) ?_
    by_cases hkey : d.table.hasKey .clientTls = true
    · rw [CaExchange.certified, if_pos hkey]
      exact .head (Point.step_check_of_hasKey hkey) (.single rfl)
    · rw [CaExchange.certified, if_neg hkey]
      exact .single (Point.step_check_of_not_hasKey hkey)

/-- **A call with nothing in between does what the whole call does.** -/
lemma leads_of_call (call : Call) :
    Leads service (d, call.start)
      (((call.run service).run d).state, .ended ((call.run service).run d).result) := by
  cases call with
  | init => exact leads_init
  | recordCertificate id => exact leads_recordCertificate id
  | applyResponse octets => exact leads_applyResponse octets

end Leads

/-! ## Interleavings -/

/-- The state that threads share, and where each of them stands.  There are as many threads as
numbers, and most of them call nothing. -/
structure World (σ : Type) where
  shared : DeviceState σ
  point : Nat → Point

/-- What happens next: a thread begins a call, or takes its next step. -/
inductive Event where
  | call (thread : Nat) (call : Call)
  | step (thread : Nat)

namespace World

/-- No thread calls anything yet. -/
def idle (d : DeviceState σ) : World σ := ⟨d, fun _ => .ended (.ok .done)⟩

/-- The world in which one thread has come to another point and left the shared state as `d`. -/
def move (w : World σ) (thread : Nat) (d : DeviceState σ) (point : Point) : World σ :=
  ⟨d, Function.update w.point thread point⟩

section Move

variable (w : World σ) (thread : Nat) (d : DeviceState σ) (point : Point)

@[simp] lemma shared_move : (w.move thread d point).shared = d := rfl

@[simp] lemma point_move_self : (w.move thread d point).point thread = point :=
  Function.update_self ..

@[simp] lemma point_move_of_ne {other : Nat} (h : other ≠ thread) :
    (w.move thread d point).point other = w.point other :=
  Function.update_of_ne h ..

end Move

/-- The world after an event.  A thread begins a call only when the one before has ended. -/
def after (service : SecureService σ) (w : World σ) : Event → World σ
  | .call thread call =>
    match w.point thread with
    | .ended _ => w.move thread w.shared call.start
    | _ => w
  | .step thread =>
    let (d, point) := (w.point thread).step service w.shared
    w.move thread d point

/-- The world after events. -/
def run (service : SecureService σ) (w : World σ) (events : List Event) : World σ :=
  events.foldl (after service) w

/-- The status of a slot. -/
def status (w : World σ) (slot : KeySlot) : KeyStatus := w.shared.table.status slot

end World

end Threads

end DeviceIdentity

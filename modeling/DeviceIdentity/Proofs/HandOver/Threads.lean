import Mathlib.Logic.Function.Basic
import Mathlib.Logic.Relation
import DeviceIdentity.Device
import DeviceIdentity.Proofs.Action

/-!
# Threads that share the record

The record is guarded by a lock, and a thread that finds none waits until one is stored.  A call is
taken apart into single steps: taking the lock, each look at the record or at the clock and each
change while the lock is held, and giving the lock up.  Between two steps a thread stands at a
`Point`, and any other thread may take a step or time may pass.

A thread that waits gives the lock up and joins the wait set in one step.  It leaves the wait set
when it wakes up.  It can do so at any time, whether it was notified, its time is over, or for no
reason, and then takes the lock and looks again.

* `Call` — what a thread can call; `Errand` — what it takes the lock for.
* `Point.next` — the next step of a thread; `World.step` — what it does to the world.
* `World` — the record, the lock, the clock, and where each thread stands; `World.run` — an
  interleaving; `World.writes` — the records that it stores.
* `Leads` — the steps of one thread with nothing but time in between.
* **`leads_store`, `leads_record`, `leads_get`, `leads_waitForRecord`** — they do what the whole
  call does.
-/

namespace DeviceIdentity

namespace HandOver

/-! ## Calls -/

/-- Clocks count nanoseconds. -/
def millisecond : Nat := 1000000

/-- The time after which a reader gives up, if it ever does. -/
def Patience.limit? : Patience → Option Nat
  | unbounded => none
  | milliseconds limit => some (limit * millisecond)

/-- What a thread calls. -/
inductive Call where
  | store (record : ProvisionRecord)
  | record
  | get (buffer : Bytes)
  /-- Waits until there is a record. -/
  | wait
  /-- Waits until there is a record, or a time is over. -/
  | waitTimeout (limit : Nat)
  /-- Waits as long as a device does, and reads the record. -/
  | waitForRecord (patience : Patience)

/-- What a call answers. -/
inductive Answer where
  | done
  /-- Whether there is a record. -/
  | found (found : Bool)
  | record (result : Except Failure ProvisionRecord)
  /-- What was copied, and the buffer. -/
  | copied (copied : Except Failure Nat × Bytes)

/-- The time after which a call gives up waiting, if it ever does. -/
def Call.limit? : Call → Option Nat
  | waitTimeout limit => some limit
  | waitForRecord patience => patience.limit?
  | _ => none

/-- Whether a call waits. -/
def Call.waits : Call → Bool
  | wait | waitTimeout _ | waitForRecord _ => true
  | _ => false

/-! ## Points -/

/-- What a thread takes the lock for. -/
inductive Errand where
  | store (record : ProvisionRecord)
  | read
  | copy (buffer : Bytes)
  /-- To see whether there is a record, or else to wait, until a deadline if there is one. -/
  | await (deadline : Option Nat)

/-- Where a thread stands. -/
inductive Point where
  /-- It has called nothing yet. -/
  | idle
  /-- It reads the clock next, from which it will wait for `limit`. -/
  | dating (limit : Nat)
  /-- It takes the lock next, as soon as no other thread holds it. -/
  | entering (errand : Errand)
  /-- It has taken the lock. -/
  | inside (errand : Errand)
  /-- It has stored a record, and notifies the wait set next. -/
  | notifying
  /-- It has found a record, whose first segments are in the buffer: `done`, and `free` after it. -/
  | copying (done free : Bytes) (segments : Nat)
  /-- It has found no record, and compares the clock with its deadline next. -/
  | timing (deadline : Nat)
  /-- It has found no record; next it gives the lock up and joins the wait set. -/
  | joining (deadline : Option Nat)
  /-- It is in the wait set. -/
  | asleep (deadline : Option Nat) (notified : Bool)
  /-- It has found a record, and gives the lock up before it takes it again to read the record. -/
  | turning
  /-- It gives the lock up and returns. -/
  | leaving (answer : Answer)
  /-- It has returned. -/
  | ended (answer : Answer)

/-- Where a thread stands when it begins a call. -/
def Call.start : Call → Point
  | store given => .entering (.store given)
  | record => .entering .read
  | get buffer => .entering (.copy buffer)
  | wait => .entering (.await none)
  | waitTimeout limit => .dating limit
  | waitForRecord patience =>
    match patience.limit? with
    | some limit => .dating limit
    | none => .entering (.await none)

/-- Where a thread stands that has waited and found a record. -/
def Call.found : Call → Point
  | waitTimeout _ => .leaving (.found true)
  | waitForRecord _ => .turning
  | _ => .leaving .done

/-- Where a thread stands that has waited in vain. -/
def Call.gaveUp : Call → Point
  | waitTimeout _ => .leaving (.found false)
  | _ => .leaving (.record (.error .notProvisioned))

namespace Point

/-- Whether the thread holds the lock. -/
def holds : Point → Bool
  | inside _ | notifying | copying _ _ _ | timing _ | joining _ | turning | leaving _ => true
  | _ => false

/-- Whether the thread only looks at the record or at the clock next, with the lock held. -/
def looks : Point → Bool
  | inside (.store _) => false
  | inside _ | copying _ _ _ | timing _ => true
  | _ => false

/-- Whether the thread gives the lock up next. -/
def releases : Point → Bool
  | joining _ | turning | leaving _ => true
  | _ => false

/-- The record that the thread stores next. -/
def stores? : Point → Option ProvisionRecord
  | inside (.store record) => some record
  | _ => none

/-- Where a member of the wait set stands after all have been notified. -/
def notified : Point → Point
  | asleep deadline _ => asleep deadline true
  | point => point

/-- Where a thread stands after its next step, by what it finds.  A time that ends after `latest`,
where clocks end, never does. -/
def next (latest : Nat) (call : Call) (record : HandOver) (now : Nat) : Point → Point
  | dating limit =>
    entering (.await (if now + limit ≤ latest then some (now + limit) else none))
  | entering errand => inside errand
  | inside (.store _) => notifying
  | inside .read => leaving (.record (HandOver.record.run record).result)
  | inside (.copy buffer) =>
    match record with
    | some _ => copying [] buffer 0
    | none => leaving (.copied (.error .notProvisioned, buffer))
  | inside (.await deadline) =>
    match record, deadline with
    | some _, _ => call.found
    | none, some deadline => timing deadline
    | none, none => joining none
  | notifying => leaving .done
  | copying done free segments =>
    match record.bind fun record => record.segments[segments]? with
    | some segment =>
      if segment.length ≤ free.length then
        copying (done ++ segment) (free.drop segment.length) (segments + 1)
      else leaving (.copied (.error .bufferTooSmall, done ++ free))
    | none => leaving (.copied (.ok done.length, done ++ free))
  | timing deadline => if deadline ≤ now then call.gaveUp else joining (some deadline)
  | joining deadline => asleep deadline false
  | turning => entering .read
  | leaving answer => ended answer
  | point => point

section Copying

variable {latest now segments : Nat} {call : Call} {record : ProvisionRecord} {done free : Bytes}

/-- The copy is complete. -/
lemma next_copying_of_nil (h : record.segments.drop segments = []) :
    (copying done free segments).next latest call (some record) now =
      leaving (.copied (ProvisionRecord.writeSegments done free [])) := by
  have hnone : record.segments[segments]? = none :=
    List.getElem?_eq_none (List.drop_eq_nil_iff.1 h)
  simp only [next, Option.bind_some, hnone, ProvisionRecord.writeSegments]

/-- The next segment is copied, or does not fit. -/
lemma next_copying_of_cons {segment : Bytes} {rest : List Bytes}
    (h : record.segments.drop segments = segment :: rest) :
    (copying done free segments).next latest call (some record) now =
      if segment.length ≤ free.length then
        copying (done ++ segment) (free.drop segment.length) (segments + 1)
      else leaving (.copied (.error .bufferTooSmall, done ++ free)) := by
  have hsome : record.segments[segments]? = some segment := by
    rw [← Nat.add_zero segments, ← List.getElem?_drop, h, List.getElem?_cons_zero]
  simp only [next, Option.bind_some, hsome]

lemma drop_of_cons {segment : Bytes} {rest : List Bytes}
    (h : record.segments.drop segments = segment :: rest) :
    record.segments.drop (segments + 1) = rest := by
  rw [List.drop_add_one_eq_tail_drop, h, List.tail_cons]

end Copying

section Holds

variable {latest now : Nat} {call : Call} {record : HandOver} {point : Point}

/-- A thread that looks holds the lock, and goes on doing so. -/
lemma holds_of_looks (hlooks : point.looks = true) : point.holds = true := by
  cases point with
  | inside | copying | timing => rfl
  | _ => cases hlooks

lemma stores?_of_looks (hlooks : point.looks = true) : point.stores? = none := by
  cases point with
  | inside errand =>
    cases errand with
    | store => cases hlooks
    | _ => rfl
  | _ => rfl

lemma ne_idle_of_looks (hlooks : point.looks = true) : point ≠ .idle := by
  rintro rfl
  cases hlooks

lemma ne_notifying_of_looks (hlooks : point.looks = true) : point ≠ .notifying := by
  rintro rfl
  cases hlooks

lemma eq_of_stores? {given : ProvisionRecord} (h : point.stores? = some given) :
    point = .inside (.store given) := by
  cases point with
  | inside errand =>
    cases errand with
    | store =>
      cases h
      rfl
    | _ => cases h
  | _ => cases h

lemma holds_of_stores? {given : ProvisionRecord} (h : point.stores? = some given) :
    point.holds = true := by
  rw [eq_of_stores? h]
  rfl

lemma holds_start (call : Call) : call.start.holds = false := by
  cases call with
  | waitForRecord patience => cases patience <;> rfl
  | _ => rfl

lemma start_ne_asleep (call : Call) (deadline : Option Nat) :
    call.start ≠ .asleep deadline false := by
  cases call with
  | waitForRecord patience => cases patience <;> nofun
  | _ => nofun

lemma holds_found (call : Call) : call.found.holds = true := by
  cases call <;> rfl

lemma holds_gaveUp (call : Call) : call.gaveUp.holds = true := by
  cases call <;> rfl

lemma holds_next_of_looks (hlooks : point.looks = true) :
    (point.next latest call record now).holds = true := by
  cases point with
  | inside errand =>
    cases errand with
    | store => cases hlooks
    | read => rfl
    | copy => cases record <;> rfl
    | await deadline =>
      cases record with
      | some found => exact holds_found call
      | none => cases deadline <;> rfl
  | copying done free segments =>
    rw [next]
    split
    · split_ifs <;> rfl
    · rfl
  | timing deadline =>
    rw [next]
    split_ifs
    · exact holds_gaveUp call
    · rfl
  | _ => cases hlooks

/-- A thread that gives the lock up held it. -/
lemma holds_of_releases (hreleases : point.releases = true) : point.holds = true := by
  cases point with
  | joining | turning | leaving => rfl
  | _ => cases hreleases

lemma stores?_of_releases (hreleases : point.releases = true) : point.stores? = none := by
  cases point with
  | inside => cases hreleases
  | _ => rfl

lemma ne_idle_of_releases (hreleases : point.releases = true) : point ≠ .idle := by
  rintro rfl
  cases hreleases

lemma ne_notifying_of_releases (hreleases : point.releases = true) : point ≠ .notifying := by
  rintro rfl
  cases hreleases

lemma holds_next_of_releases (hreleases : point.releases = true) :
    (point.next latest call record now).holds = false := by
  cases point with
  | joining | turning | leaving => rfl
  | _ => cases hreleases

/-- A thread goes to sleep when it joins the wait set. -/
lemma eq_of_next_eq_asleep {deadline : Option Nat}
    (h : point.next latest call record now = .asleep deadline false) :
    point = .joining deadline ∨ point = .asleep deadline false := by
  by_cases hlooks : point.looks = true
  · -- it goes on holding the lock, which nobody does asleep
    have hholds : (point.next latest call record now).holds = true := holds_next_of_looks hlooks
    rw [h] at hholds
    cases hholds
  · cases point with
    | joining =>
      cases h
      exact .inl rfl
    | asleep => exact .inr h
    | inside errand =>
      cases errand with
      | store => cases h
      | _ => exact (hlooks rfl).elim
    | copying | timing => exact (hlooks rfl).elim
    | _ => cases h

lemma notified_ne_asleep (point : Point) (deadline : Option Nat) :
    point.notified ≠ .asleep deadline false := by
  cases point <;> nofun

@[simp] lemma holds_notified (point : Point) : point.notified.holds = point.holds := by
  cases point <;> rfl

end Holds

end Point

/-! ## Worlds -/

/-- A thread: its call, when that began, and where the thread stands in it. -/
structure Thread where
  call : Call := .record
  since : Nat := 0
  point : Point := .idle

/-- What threads share, and the threads.  There are as many as numbers, and most call nothing. -/
structure World where
  record : HandOver := none
  /-- The thread that holds the lock. -/
  holder : Option Nat := none
  now : Nat := 0
  thread : Nat → Thread := fun _ => {}

/-- What happens next. -/
inductive Event where
  /-- A thread begins a call. -/
  | call (thread : Nat) (call : Call)
  /-- A thread takes its next step. -/
  | step (thread : Nat)
  /-- A thread leaves the wait set. -/
  | wake (thread : Nat)
  /-- Time passes. -/
  | tick (time : Nat)

namespace World

/-- No record is stored, and no thread has called anything. -/
def idle : World := {}

/-- The world with another thread in place of one. -/
def put (w : World) (t : Nat) (thread : Thread) : World :=
  { w with thread := Function.update w.thread t thread }

/-- The world in which a thread has begun a call. -/
def begin (w : World) (t : Nat) (call : Call) : World := w.put t ⟨call, w.now, call.start⟩

/-- The world in which a thread has come to another point. -/
def move (w : World) (t : Nat) (point : Point) : World := w.put t { w.thread t with point }

/-- The world in which the whole wait set has been notified. -/
def notifyAll (w : World) : World :=
  { w with thread := fun t => { w.thread t with point := (w.thread t).point.notified } }

/-- The world after some time. -/
def tick (w : World) (time : Nat) : World := { w with now := w.now + time }

section Put

variable (w : World) (t : Nat) (thread : Thread)

@[simp] lemma thread_put_self : (w.put t thread).thread t = thread :=
  Function.update_self ..

@[simp] lemma thread_put_of_ne {u : Nat} (h : u ≠ t) : (w.put t thread).thread u = w.thread u :=
  Function.update_of_ne h ..

@[simp] lemma holder_put : (w.put t thread).holder = w.holder := rfl

@[simp] lemma now_put : (w.put t thread).now = w.now := rfl

@[simp] lemma put_put (thread' : Thread) : (w.put t thread).put t thread' = w.put t thread' := by
  simp only [put, Function.update_idem]

end Put

/-- The world after a step of a thread. -/
def step (latest : Nat) (w : World) (t : Nat) : World :=
  let here := w.thread t
  let there := w.move t (here.point.next latest here.call w.record w.now)
  match here.point with
  | .idle | .asleep _ _ | .ended _ => w
  | .entering _ => if w.holder = none then { there with holder := some t } else w
  | .inside (.store record) => { there with record := ((HandOver.store record).run w.record).state }
  | .notifying => there.notifyAll
  | .joining _ | .turning | .leaving _ => { there with holder := none }
  | _ => there

/-- The world after an event.  A thread begins a call only when the one before has ended. -/
def after (latest : Nat) (w : World) : Event → World
  | .call t call =>
    match (w.thread t).point with
    | .idle | .ended _ => w.begin t call
    | _ => w
  | .step t => w.step latest t
  | .wake t =>
    match (w.thread t).point with
    | .asleep deadline _ => w.move t (.entering (.await deadline))
    | _ => w
  | .tick time => w.tick time

/-- The world after events. -/
def run (latest : Nat) (w : World) (events : List Event) : World :=
  events.foldl (after latest) w

/-- The record that an event stores. -/
def stores? (w : World) : Event → Option ProvisionRecord
  | .step t => (w.thread t).point.stores?
  | _ => none

/-- The records that events store, in order. -/
def writes (latest : Nat) (w : World) : List Event → List ProvisionRecord
  | [] => []
  | event :: rest => (w.stores? event).toList ++ (w.after latest event).writes latest rest

/-- The thread is about to return from a call. -/
def Returns (w : World) (t : Nat) (call : Call) (answer : Answer) : Prop :=
  (w.thread t).call = call ∧ (w.thread t).point = .leaving answer

end World

/-! ## A call with nothing in between -/

namespace World

/-- The world in which a thread holds the lock. -/
def locked (w : World) (t : Nat) (thread : Thread) : World :=
  { w.put t thread with holder := some t }

lemma notifyAll_locked (w : World) (t : Nat) (thread : Thread) :
    (w.locked t thread).notifyAll =
      w.notifyAll.locked t { thread with point := thread.point.notified } := by
  refine congrArg (fun threads => (⟨w.record, some t, w.now, threads⟩ : World)) (funext fun u => ?_)
  by_cases hu : u = t
  · subst hu
    simp [locked, put]
  · simp [locked, put, notifyAll, hu]

end World

/-- The steps of a thread lead from one world to another, while time may pass and no other thread
takes a step. -/
def Leads (latest t : Nat) : World → World → Prop :=
  Relation.ReflTransGen fun w w' => w.step latest t = w' ∨ ∃ time, w.tick time = w'

section Leads

variable {latest t since : Nat} {w w' : World} {call : Call} {errand : Errand} {answer : Answer}
  {point : Point}

lemma Leads.step (h : Leads latest t (w.step latest t) w') : Leads latest t w w' :=
  .head (.inl rfl) h

lemma leads_step (h : w.step latest t = w') : Leads latest t w w' :=
  .single (.inl h)

/-- A thread takes a free lock. -/
lemma step_entering (hfree : w.holder = none) :
    (w.put t ⟨call, since, .entering errand⟩).step latest t =
      w.locked t ⟨call, since, .inside errand⟩ := by
  simp [World.step, World.move, World.locked, Point.next, hfree]

/-- A thread looks at the record or at the clock. -/
lemma step_looks (hlooks : point.looks = true) :
    (w.locked t ⟨call, since, point⟩).step latest t =
      w.locked t ⟨call, since, point.next latest call w.record w.now⟩ := by
  cases point with
  | inside errand =>
    cases errand with
    | store record => cases hlooks
    | _ => simp [World.step, World.move, World.locked, World.put]
  | copying => simp [World.step, World.move, World.locked, World.put]
  | timing => simp [World.step, World.move, World.locked, World.put]
  | _ => cases hlooks

/-- A thread gives the lock up. -/
lemma step_releases (hfree : w.holder = none) (hreleases : point.releases = true) :
    (w.locked t ⟨call, since, point⟩).step latest t =
      w.put t ⟨call, since, point.next latest call w.record w.now⟩ := by
  cases point with
  | joining => simp [World.step, World.move, World.locked, World.put, ← hfree]
  | turning => simp [World.step, World.move, World.locked, World.put, ← hfree]
  | leaving => simp [World.step, World.move, World.locked, World.put, ← hfree]
  | _ => cases hreleases

/-- A thread stores a record. -/
lemma step_stores {record : ProvisionRecord} :
    (w.locked t ⟨call, since, .inside (.store record)⟩).step latest t =
      World.locked { w with record := ((HandOver.store record).run w.record).state } t
        ⟨call, since, .notifying⟩ := by
  simp [World.step, World.move, World.locked, World.put, Point.next]

/-- A thread notifies the wait set. -/
lemma step_notifies :
    (w.locked t ⟨call, since, .notifying⟩).step latest t =
      w.notifyAll.locked t ⟨call, since, .leaving .done⟩ := by
  have hmove : (w.locked t ⟨call, since, .notifying⟩).move t (.leaving .done) =
      w.locked t ⟨call, since, .leaving .done⟩ := by
    simp [World.move, World.locked, World.put]
  have hstep : (w.locked t ⟨call, since, .notifying⟩).step latest t =
      ((w.locked t ⟨call, since, .notifying⟩).move t (.leaving .done)).notifyAll := by
    simp [World.step, World.locked, Point.next]
  rw [hstep, hmove, World.notifyAll_locked]
  rfl

/-- A lock is taken for one look. -/
lemma leads_visit (hfree : w.holder = none) (hlooks : (Point.inside errand).looks = true)
    (hnext : (Point.inside errand).next latest call w.record w.now = .leaving answer) :
    Leads latest t (w.put t ⟨call, since, .entering errand⟩)
      (w.put t ⟨call, since, .ended answer⟩) := by
  refine .step ?_
  rw [step_entering hfree]
  refine .step ?_
  rw [step_looks hlooks, hnext]
  exact leads_step (step_releases hfree rfl)

/-- **Storing a record** is what the whole call does, and the wait set is notified. -/
lemma leads_store (hfree : w.holder = none) (record : ProvisionRecord) :
    let stored := { w.notifyAll with record := ((HandOver.store record).run w.record).state }
    Leads latest t (w.begin t (.store record))
      (stored.put t ⟨.store record, w.now, .ended .done⟩) := by
  intro stored
  refine .step ?_
  rw [World.begin, Call.start, step_entering hfree]
  refine .step ?_
  rw [step_stores]
  refine .step ?_
  rw [step_notifies]
  have hfree' : stored.holder = none := hfree
  exact leads_step (step_releases hfree' rfl)

/-- **Reading the record** is what the whole call does. -/
lemma leads_record (hfree : w.holder = none) :
    Leads latest t (w.begin t .record)
      (w.put t ⟨.record, w.now, .ended (.record (HandOver.record.run w.record).result)⟩) :=
  leads_visit hfree rfl rfl

/-- The segments that are left are copied. -/
lemma leads_copying {record : ProvisionRecord} (hfree : w.holder = none)
    (hrecord : w.record = some record) (done free : Bytes) (segments : Nat) :
    Leads latest t (w.locked t ⟨call, since, .copying done free segments⟩)
      (w.put t ⟨call, since, .ended (.copied
        (ProvisionRecord.writeSegments done free (record.segments.drop segments)))⟩) := by
  induction hrest : record.segments.drop segments generalizing done free segments with
  | nil =>
    refine .step ?_
    rw [step_looks rfl, hrecord, Point.next_copying_of_nil hrest]
    exact leads_step (step_releases hfree rfl)
  | cons segment rest ih =>
    refine .step ?_
    rw [step_looks rfl, hrecord, Point.next_copying_of_cons hrest, ProvisionRecord.writeSegments]
    split_ifs
    · exact ih _ _ _ (Point.drop_of_cons hrest)
    · exact leads_step (step_releases hfree rfl)

/-- **Copying the record** is what the whole call does. -/
lemma leads_get (hfree : w.holder = none) (buffer : Bytes) :
    Leads latest t (w.begin t (.get buffer))
      (w.put t ⟨.get buffer, w.now, .ended (.copied (HandOver.get w.record buffer))⟩) := by
  cases hrecord : w.record with
  | none =>
    refine leads_visit hfree rfl ?_
    rw [hrecord]
    rfl
  | some record =>
    refine .step ?_
    rw [World.begin, Call.start, step_entering hfree]
    refine .step ?_
    rw [step_looks rfl, hrecord]
    exact leads_copying hfree hrecord [] buffer 0

/-! ## Waiting -/

/-- A thread begins to wait, and finds a record or not. -/
lemma leads_await (hfree : w.holder = none) (deadline : Option Nat) :
    Leads latest t (w.put t ⟨call, since, .entering (.await deadline)⟩)
      (w.locked t ⟨call, since,
        (Point.inside (.await deadline)).next latest call w.record w.now⟩) := by
  refine .step ?_
  rw [step_entering hfree]
  exact leads_step (step_looks rfl)

/-- A device that waits first finds out until when. -/
lemma leads_waiting (patience : Patience)
    (htime : ∀ limit ∈ patience.limit?, w.now + limit ≤ latest) :
    Leads latest t (w.begin t (.waitForRecord patience))
      (w.put t ⟨.waitForRecord patience, w.now,
        .entering (.await (patience.limit?.map (w.now + ·)))⟩) := by
  rw [World.begin, Call.start]
  cases hlimit : patience.limit? with
  | none => exact .refl
  | some limit =>
    refine leads_step ?_
    simp [World.step, World.move, Point.next, htime limit hlimit]

/-- What a call answers that has waited and found a record. -/
def Call.success (found : ProvisionRecord) : Call → Answer
  | waitTimeout _ => .found true
  | waitForRecord _ => .record (.ok found)
  | _ => .done

/-- A thread that looks when there is a record returns. -/
lemma leads_found {found : ProvisionRecord} (hfree : w.holder = none)
    (hrecord : w.record = some found) (hwaits : call.waits = true) (deadline : Option Nat) :
    Leads latest t (w.put t ⟨call, since, .entering (.await deadline)⟩)
      (w.put t ⟨call, since, .ended (call.success found)⟩) := by
  have hawait : Leads latest t _ (w.locked t ⟨call, since, _⟩) := leads_await hfree deadline
  have hnext : (Point.inside (.await deadline)).next latest call w.record w.now = call.found := by
    rw [hrecord, Point.next]
  rw [hnext] at hawait
  refine hawait.trans ?_
  cases call with
  | wait => exact leads_step (step_releases hfree rfl)
  | waitTimeout => exact leads_step (step_releases hfree rfl)
  | waitForRecord =>
    -- the lock is taken a second time to read the record
    refine (leads_step (step_releases hfree rfl)).trans (leads_visit hfree rfl ?_)
    rw [hrecord]
    rfl
  | _ => cases hwaits

/-- A thread that has found no record gives up when its time is over. -/
lemma leads_gaveUp (hfree : w.holder = none) (hgaveUp : call.gaveUp = .leaving answer)
    {limit : Nat} :
    Leads latest t (w.locked t ⟨call, since, .timing (w.now + limit)⟩)
      ((w.tick limit).put t ⟨call, since, .ended answer⟩) := by
  have hlate : Leads latest t (w.locked t ⟨call, since, .timing (w.now + limit)⟩)
      ((w.tick limit).locked t ⟨call, since, .timing (w.now + limit)⟩) :=
    .single (.inr ⟨limit, rfl⟩)
  have hnext : (Point.timing (w.now + limit)).next latest call (w.tick limit).record
      (w.tick limit).now = .leaving answer := by
    rw [Point.next, World.tick, if_pos (Nat.le_refl _), hgaveUp]
  have hlooks : ((w.tick limit).locked t ⟨call, since, .timing (w.now + limit)⟩).step latest t =
      (w.tick limit).locked t ⟨call, since, .leaving answer⟩ := by
    rw [step_looks rfl, hnext]
  have hfree' : (w.tick limit).holder = none := hfree
  refine hlate.trans (Leads.step ?_)
  rw [hlooks]
  exact leads_step (step_releases hfree' rfl)

variable {σ : Type}

/-- What becomes of a device that waits is decided by the record and its patience. -/
lemma result_waitForRecord (device : Device σ) (d : DeviceState σ) :
    (device.waitForRecord.run d).result =
      match d.handOver, device.patience with
      | some record, _ => .ok (some record)
      | none, .unbounded => .ok none
      | none, .milliseconds _ => .error .notProvisioned := by
  obtain ⟨service, table, handOver⟩ := d
  unfold Device.waitForRecord
  generalize device.patience = patience
  cases handOver with
  | some record => rfl
  | none => cases patience <;> rfl

/-- **Waiting for the record** is what becomes of a device that no other thread helps. -/
lemma leads_waitForRecord (device : Device σ) {d : DeviceState σ} (hfree : w.holder = none)
    (hrecord : w.record = d.handOver)
    (htime : ∀ limit ∈ device.patience.limit?, w.now + limit ≤ latest) :
    let call := Call.waitForRecord device.patience
    match (device.waitForRecord.run d).result with
    | .ok (some record) =>
      Leads latest t (w.begin t call) (w.put t ⟨call, w.now, .ended (.record (.ok record))⟩)
    | .ok none => Leads latest t (w.begin t call) (w.put t ⟨call, w.now, .asleep none false⟩)
    | .error failure =>
      ∃ time, Leads latest t (w.begin t call)
        ((w.tick time).put t ⟨call, w.now, .ended (.record (.error failure))⟩) := by
  intro call
  have hwaiting : Leads latest t (w.begin t call) _ := leads_waiting device.patience htime
  rw [result_waitForRecord]
  cases hfound : d.handOver with
  | some record => exact hwaiting.trans (leads_found hfree (hrecord.trans hfound) rfl _)
  | none =>
    have hawait : Leads latest t _ (w.locked t ⟨call, w.now, _⟩) :=
      leads_await hfree (device.patience.limit?.map (w.now + ·))
    have hbegin := hwaiting.trans hawait
    rw [hrecord, hfound] at hbegin
    cases hpatience : device.patience with
    | unbounded =>
      rw [hpatience] at hbegin
      exact hbegin.trans (leads_step (step_releases hfree rfl))
    | milliseconds limit =>
      rw [hpatience] at hbegin
      exact ⟨limit * millisecond, hbegin.trans (leads_gaveUp hfree rfl)⟩

end Leads

end HandOver

end DeviceIdentity

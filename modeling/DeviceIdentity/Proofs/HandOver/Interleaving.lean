import Mathlib.Data.List.Induction
import DeviceIdentity.Proofs.HandOver.Knowledge

/-!
# The hand-over under interleaving

Many threads store, read and wait for the record at the same time.  A thread joins the wait set only
with the lock held and no record stored, and whoever stores a record notifies the wait set before
another thread can take the lock.  So no thread sleeps while there is a record and nobody about to
notify it.

An interleaving in which nothing comes between the steps of a lock section is a run as any other, so
all of this holds with lock sections as single steps, too.

* `World.Effect` — all that a step can do to the world.
* `World.Sound` — the invariant; `Sound.effect`, `Sound.after`, `Sound.run` — a step, an event and a
  run keep it.
* `Sound.about_to_be_notified` — who sleeps on while there is a record is about to be notified.
* `record_run`, `record_idle_run` — the record is the one stored last; `allows_of_returns` — what a
  call answers is allowed by it; `getLast?_writes_of_returns` — once stored, there is one for good.
* **`safe_run`** — what the callers see, in every interleaving.
* **`returns_of_asleep`** — a thread in the wait set needs only its own steps to return.
-/

namespace DeviceIdentity

namespace HandOver

/-! ## What a step does -/

namespace World

variable {latest : Nat} {w : World} {t u : Nat}

/-- The point that a thread comes to next. -/
def next (latest : Nat) (w : World) (t : Nat) : Point :=
  (w.thread t).point.next latest (w.thread t).call w.record w.now

lemma next_eq {point : Point} (hpoint : (w.thread t).point = point) :
    w.next latest t = point.next latest (w.thread t).call w.record w.now := by
  rw [next, hpoint]

/-- The world in which a thread has come to its next point. -/
def moved (latest : Nat) (w : World) (t : Nat) : World := w.move t (w.next latest t)

/-- All that a step of a thread can do to the world. -/
inductive Effect (latest : Nat) (w : World) (t : Nat) : World → Prop
  | nothing : Effect latest w t w
  | date {limit : Nat} (hpoint : (w.thread t).point = .dating limit) :
      Effect latest w t (w.moved latest t)
  | acquire {errand : Errand} (hpoint : (w.thread t).point = .entering errand)
      (hfree : w.holder = none) : Effect latest w t { w.moved latest t with holder := some t }
  | look (hlooks : (w.thread t).point.looks = true) : Effect latest w t (w.moved latest t)
  | store {given : ProvisionRecord} (hpoint : (w.thread t).point = .inside (.store given)) :
      Effect latest w t { w.moved latest t with record := some given }
  | notify (hpoint : (w.thread t).point = .notifying) :
      Effect latest w t (w.moved latest t).notifyAll
  | release (hreleases : (w.thread t).point.releases = true) :
      Effect latest w t { w.moved latest t with holder := none }

lemma effect_step (latest : Nat) (w : World) (t : Nat) : Effect latest w t (w.step latest t) := by
  have hmoved : w.move t ((w.thread t).point.next latest (w.thread t).call w.record w.now) =
    w.moved latest t := rfl
  rw [step, hmoved]
  cases hpoint : (w.thread t).point with
  | idle => exact .nothing
  | dating limit => exact .date hpoint
  | entering errand =>
    dsimp only
    split_ifs with hfree
    · exact .acquire hpoint hfree
    · exact .nothing
  | inside errand =>
    cases errand with
    | store given => exact .store hpoint
    | _ => exact .look (by rw [hpoint]; rfl)
  | notifying => exact .notify hpoint
  | copying => exact .look (by rw [hpoint]; rfl)
  | timing => exact .look (by rw [hpoint]; rfl)
  | joining => exact .release (by rw [hpoint]; rfl)
  | asleep => exact .nothing
  | turning => exact .release (by rw [hpoint]; rfl)
  | leaving => exact .release (by rw [hpoint]; rfl)
  | ended => exact .nothing

end World

/-! ## The invariant -/

namespace World

/-- Exactly the holder stands where the lock is held, every thread is right, and no thread misses
being notified: as long as one has not been, there is no record, or it is about to be. -/
structure Sound (w : World) : Prop where
  holds_iff : ∀ t, (w.thread t).point.holds = true ↔ w.holder = some t
  knows : ∀ t, Knows w.record w.now (w.thread t).since (w.thread t).call (w.thread t).point
  heard : ∀ t deadline, (w.thread t).point = .asleep deadline false →
    w.record = none ∨ ∃ u, (w.thread u).point = .notifying

variable {latest : Nat} {w : World} {t u : Nat}

lemma sound_idle : idle.Sound where
  holds_iff _ := ⟨nofun, nofun⟩
  knows _ := .idle
  heard _ _ h := nomatch h

/-- Only the holder of the lock stands where the lock is held. -/
lemma Sound.eq_of_holds (h : w.Sound) (ht : (w.thread t).point.holds = true)
    (hu : (w.thread u).point.holds = true) : u = t := by
  have hholder := ((h.holds_iff u).1 hu).symm.trans ((h.holds_iff t).1 ht)
  exact Option.some.inj hholder

/-- A thread that does not hold the lock comes to another place without it. -/
lemma Sound.put {thread : Thread} (h : w.Sound) (hfree : (w.thread t).point.holds = false)
    (hfree' : thread.point.holds = false)
    (hknows : Knows w.record w.now thread.since thread.call thread.point)
    (hawake : ∀ deadline, thread.point ≠ .asleep deadline false) : (w.put t thread).Sound where
  holds_iff u := by
    by_cases hu : u = t
    · subst hu
      rw [thread_put_self, hfree', ← hfree]
      exact h.holds_iff u
    · rw [thread_put_of_ne _ _ _ hu]
      exact h.holds_iff u
  knows u := by
    by_cases hu : u = t
    · subst hu
      rw [thread_put_self]
      exact hknows
    · rw [thread_put_of_ne _ _ _ hu]
      exact h.knows u
  heard u deadline hasleep := by
    by_cases hu : u = t
    · subst hu
      rw [thread_put_self] at hasleep
      exact (hawake deadline hasleep).elim
    · rw [thread_put_of_ne _ _ _ hu] at hasleep
      refine (h.heard u deadline hasleep).imp_right fun ⟨v, hv⟩ => ⟨v, ?_⟩
      have hne : v ≠ t := by
        rintro rfl
        rw [hv] at hfree
        cases hfree
      rw [thread_put_of_ne _ _ _ hne]
      exact hv

/-- A thread begins a call. -/
lemma Sound.begin (h : w.Sound) (hfree : (w.thread t).point.holds = false) (call : Call) :
    (w.begin t call).Sound :=
  h.put hfree (Point.holds_start call) (knows_start w.record w.now call)
    (Point.start_ne_asleep call)

/-- A thread leaves the wait set. -/
lemma Sound.wake {deadline : Option Nat} {notified : Bool} (h : w.Sound)
    (hpoint : (w.thread t).point = .asleep deadline notified) :
    (w.move t (.entering (.await deadline))).Sound := by
  refine h.put (by rw [hpoint]; rfl) rfl ?_ nofun
  have hknows := h.knows t
  rw [hpoint] at hknows
  exact hknows.of_asleep

section Moved

@[simp] lemma thread_moved_self (w : World) (t : Nat) :
    (w.moved latest t).thread t = { w.thread t with point := w.next latest t } :=
  thread_put_self ..

@[simp] lemma thread_moved_of_ne (hu : u ≠ t) : (w.moved latest t).thread u = w.thread u :=
  thread_put_of_ne _ _ _ hu

/-- Every thread is right after a step, when the record is the one that the step stored, if any. -/
lemma Sound.knows_moved (h : w.Sound) {record : HandOver}
    (hrecord : record = (w.thread t).point.stores?.or w.record) (u : Nat) :
    Knows record w.now ((w.moved latest t).thread u).since ((w.moved latest t).thread u).call
      ((w.moved latest t).thread u).point := by
  by_cases hu : u = t
  · subst hu
    rw [thread_moved_self, hrecord]
    exact knows_next (h.knows u)
  · rw [thread_moved_of_ne hu]
    cases hstores : (w.thread t).point.stores? with
    | none =>
      rw [hrecord, hstores, Option.none_or]
      exact h.knows u
    | some given =>
      -- the thread that stores holds the lock, so this one does not
      have hfree : (w.thread u).point.holds = false := by
        rw [Bool.eq_false_iff]
        intro hholds
        exact hu (h.eq_of_holds (Point.holds_of_stores? hstores) hholds)
      rw [hrecord, hstores, Option.some_or]
      exact (h.knows u).stored hfree nofun

/-- The lock stays where it is. -/
lemma Sound.holds_iff_moved (h : w.Sound)
    (hsame : (w.next latest t).holds = (w.thread t).point.holds) (u : Nat) :
    ((w.moved latest t).thread u).point.holds = true ↔ w.holder = some u := by
  by_cases hu : u = t
  · subst hu
    rw [thread_moved_self, hsame]
    exact h.holds_iff u
  · rw [thread_moved_of_ne hu]
    exact h.holds_iff u

/-- A thread that goes to sleep has found no record, and one that sleeps was not missed before. -/
lemma Sound.heard_moved (h : w.Sound) (hquiet : (w.thread t).point ≠ .notifying) (u : Nat)
    (deadline : Option Nat)
    (hasleep : ((w.moved latest t).thread u).point = .asleep deadline false) :
    w.record = none ∨ ∃ v, ((w.moved latest t).thread v).point = .notifying := by
  have hbefore : w.record = none ∨ ∃ v, (w.thread v).point = .notifying := by
    by_cases hu : u = t
    · subst hu
      rw [thread_moved_self] at hasleep
      rcases Point.eq_of_next_eq_asleep hasleep with hjoining | hasleep
      · have hknows := h.knows u
        rw [hjoining] at hknows
        exact .inl hknows.none_of_joining
      · exact h.heard u deadline hasleep
    · rw [thread_moved_of_ne hu] at hasleep
      exact h.heard u deadline hasleep
  refine hbefore.imp_right fun ⟨v, hv⟩ => ⟨v, ?_⟩
  have hne : v ≠ t := by
    rintro rfl
    exact hquiet hv
  rw [thread_moved_of_ne hne]
  exact hv

end Moved

/-- A thread reads the clock, or it looks with the lock held. -/
lemma Sound.moved (h : w.Sound) (hstores : (w.thread t).point.stores? = none)
    (hsame : (w.next latest t).holds = (w.thread t).point.holds)
    (hquiet : (w.thread t).point ≠ .notifying) : (w.moved latest t).Sound where
  holds_iff := h.holds_iff_moved hsame
  knows := h.knows_moved (by rw [hstores, Option.none_or]; rfl)
  heard := h.heard_moved hquiet

/-- A thread takes the free lock. -/
lemma Sound.acquire {errand : Errand} (h : w.Sound)
    (hpoint : (w.thread t).point = .entering errand) (hfree : w.holder = none) :
    Sound { w.moved latest t with holder := some t } where
  holds_iff u := by
    by_cases hu : u = t
    · subst hu
      rw [thread_moved_self, next_eq hpoint]
      exact ⟨fun _ => rfl, fun _ => rfl⟩
    · rw [thread_moved_of_ne hu, h.holds_iff, hfree]
      exact ⟨nofun, fun hholder => (hu (Option.some.inj hholder).symm).elim⟩
  knows := h.knows_moved (by rw [hpoint]; rfl)
  heard := h.heard_moved (by rw [hpoint]; nofun)

/-- The holder stores a record. -/
lemma Sound.store {given : ProvisionRecord} (h : w.Sound)
    (hpoint : (w.thread t).point = .inside (.store given)) :
    Sound { w.moved latest t with record := some given } where
  holds_iff := h.holds_iff_moved (by rw [next_eq hpoint, hpoint]; rfl)
  knows := h.knows_moved (by rw [hpoint]; rfl)
  heard _ _ _ := .inr ⟨t, by rw [thread_moved_self, next_eq hpoint]; rfl⟩

/-- The holder notifies the wait set. -/
lemma Sound.notify (h : w.Sound) (hpoint : (w.thread t).point = .notifying) :
    (w.moved latest t).notifyAll.Sound where
  holds_iff u := by
    have hsame : ((w.moved latest t).thread u).point.holds = true ↔ w.holder = some u :=
      h.holds_iff_moved (by rw [next_eq hpoint, hpoint]; rfl) u
    rwa [← Point.holds_notified] at hsame
  knows u := (h.knows_moved (by rw [hpoint]; rfl) u).notified
  heard _ deadline hasleep := (Point.notified_ne_asleep _ deadline hasleep).elim

/-- The holder gives the lock up. -/
lemma Sound.release (h : w.Sound) (hreleases : (w.thread t).point.releases = true) :
    Sound { w.moved latest t with holder := none } where
  holds_iff u := by
    refine ⟨fun hholds => ?_, nofun⟩
    by_cases hu : u = t
    · subst hu
      rw [thread_moved_self, next, Point.holds_next_of_releases hreleases] at hholds
      cases hholds
    · rw [thread_moved_of_ne hu] at hholds
      exact (hu (h.eq_of_holds (Point.holds_of_releases hreleases) hholds)).elim
  knows := h.knows_moved (by rw [Point.stores?_of_releases hreleases, Option.none_or]; rfl)
  heard := h.heard_moved (Point.ne_notifying_of_releases hreleases)

/-- **A step of a thread keeps the invariant.** -/
lemma Sound.effect {w' : World} (h : w.Sound) (heffect : Effect latest w t w') : w'.Sound := by
  cases heffect with
  | nothing => exact h
  | date hpoint =>
    refine h.moved (by rw [hpoint]; rfl) ?_ (by rw [hpoint]; nofun)
    rw [next_eq hpoint, hpoint]
    rfl
  | acquire hpoint hfree => exact h.acquire hpoint hfree
  | look hlooks =>
    refine h.moved (Point.stores?_of_looks hlooks) ?_ (Point.ne_notifying_of_looks hlooks)
    rw [Point.holds_of_looks hlooks]
    exact Point.holds_next_of_looks hlooks
  | store hpoint => exact h.store hpoint
  | notify hpoint => exact h.notify hpoint
  | release hreleases => exact h.release hreleases

/-- **Every event keeps the invariant.** -/
lemma Sound.after (h : w.Sound) (latest : Nat) (event : Event) : (w.after latest event).Sound := by
  cases event with
  | step t => exact h.effect (effect_step latest w t)
  | call t call =>
    rw [World.after]
    split
    · next hidle => exact h.begin (by rw [hidle]; rfl) call
    · next hended => exact h.begin (by rw [hended]; rfl) call
    · exact h
  | wake t =>
    rw [World.after]
    split
    · next hasleep => exact h.wake hasleep
    · exact h
  | tick time =>
    exact ⟨h.holds_iff, fun u => (h.knows u).later (Nat.le_add_right w.now time), h.heard⟩

/-! ## Runs -/

lemma run_append (latest : Nat) (w : World) (front later : List Event) :
    w.run latest (front ++ later) = (w.run latest front).run latest later :=
  List.foldl_append ..

lemma writes_append (latest : Nat) (w : World) (front later : List Event) :
    w.writes latest (front ++ later) =
      w.writes latest front ++ (w.run latest front).writes latest later := by
  induction front generalizing w with
  | nil => rfl
  | cons event rest ih =>
    rw [List.cons_append, writes, writes, ih, List.append_assoc]
    rfl

/-- **Every run keeps the invariant.** -/
lemma Sound.run (h : w.Sound) (latest : Nat) (events : List Event) :
    (w.run latest events).Sound := by
  induction events generalizing w with
  | nil => exact h
  | cons event rest ih => exact ih (h.after latest event)

lemma record_step (latest : Nat) (w : World) (t : Nat) :
    (w.step latest t).record = (w.thread t).point.stores?.or w.record := by
  rw [step]
  cases (w.thread t).point with
  | entering errand =>
    dsimp only
    split_ifs <;> rfl
  | inside errand => cases errand <;> rfl
  | _ => rfl

/-- The record after an event is the one that it stores, or else the one before. -/
lemma record_after (latest : Nat) (w : World) (event : Event) :
    (w.after latest event).record = (w.stores? event).or w.record := by
  cases event with
  | step t => exact record_step latest w t
  | call t call =>
    rw [after]
    split <;> rfl
  | wake t =>
    rw [after]
    split <;> rfl
  | tick time => rfl

/-- **The record after a run is the one stored last.** -/
lemma record_run (latest : Nat) (w : World) (events : List Event) :
    (w.run latest events).record = (w.writes latest events).getLast?.or w.record := by
  induction events generalizing w with
  | nil => rfl
  | cons event rest ih =>
    have hlast : (w.stores? event).toList.getLast? = w.stores? event := by
      cases w.stores? event <;> rfl
    have hrun : w.run latest (event :: rest) = (w.after latest event).run latest rest := rfl
    rw [hrun, ih, record_after, writes, List.getLast?_append, hlast, Option.or_assoc]

/-- No thread begins a call. -/
def Continues (w w' : World) : Prop :=
  ∀ u, (w'.thread u).call = (w.thread u).call ∧
    ((w.thread u).point = .idle → (w'.thread u).point = .idle)

lemma continues_move (hbusy : (w.thread t).point ≠ .idle) (point : Point) :
    w.Continues (w.move t point) := by
  intro u
  by_cases hu : u = t
  · subst hu
    exact ⟨by rw [move, thread_put_self], fun hidle => (hbusy hidle).elim⟩
  · rw [move, thread_put_of_ne _ _ _ hu]
    exact ⟨rfl, id⟩

/-- A step leads into no call. -/
lemma Effect.continues {w' : World} (heffect : Effect latest w t w') : w.Continues w' := by
  cases heffect with
  | nothing => exact fun u => ⟨rfl, id⟩
  | date hpoint => exact continues_move (by rw [hpoint]; nofun) _
  | acquire hpoint => exact continues_move (by rw [hpoint]; nofun) _
  | look hlooks => exact continues_move (Point.ne_idle_of_looks hlooks) _
  | store hpoint => exact continues_move (by rw [hpoint]; nofun) _
  | notify hpoint =>
    intro u
    obtain ⟨hcall, hidle⟩ := continues_move (by rw [hpoint]; nofun) (w.next latest t) u
    exact ⟨hcall, fun hbefore => congrArg Point.notified (hidle hbefore)⟩
  | release hreleases => exact continues_move (Point.ne_idle_of_releases hreleases) _

/-- Unless a thread begins a call just now, no thread does. -/
lemma continues_after (latest : Nat) (w : World) (event : Event) :
    (∃ t call, event = .call t call ∧ w.after latest event = w.begin t call) ∨
      w.Continues (w.after latest event) := by
  cases event with
  | step t => exact .inr (effect_step latest w t).continues
  | call t call =>
    rw [after]
    split
    · exact .inl ⟨t, call, rfl, rfl⟩
    · exact .inl ⟨t, call, rfl, rfl⟩
    · exact .inr fun u => ⟨rfl, id⟩
  | wake t =>
    rw [after]
    split
    · next hasleep => exact .inr (continues_move (by rw [hasleep]; nofun) _)
    · exact .inr fun u => ⟨rfl, id⟩
  | tick time => exact .inr fun u => ⟨rfl, id⟩

/-- A thread that stands in a call has called it. -/
lemma called_run (latest : Nat) (events : List Event) (t : Nat)
    (hbusy : ((idle.run latest events).thread t).point ≠ .idle) :
    .call t ((idle.run latest events).thread t).call ∈ events := by
  induction events using List.reverseRecOn with
  | nil => exact (hbusy rfl).elim
  | append_singleton events event ih =>
    have hrun : idle.run latest (events ++ [event]) =
      (idle.run latest events).after latest event := run_append latest idle events [event]
    rw [hrun] at hbusy ⊢
    rcases continues_after latest (idle.run latest events) event with
      ⟨u, call, rfl, hbegin⟩ | hcontinues
    · rw [hbegin] at hbusy ⊢
      by_cases hu : t = u
      · subst hu
        rw [begin, thread_put_self]
        exact List.mem_append_right _ (.head _)
      · rw [begin, thread_put_of_ne _ _ _ hu] at hbusy ⊢
        exact List.mem_append_left _ (ih hbusy)
    · obtain ⟨hcall, hidle⟩ := hcontinues t
      rw [hcall]
      exact List.mem_append_left _ (ih fun hbefore => hbusy (hidle hbefore))

/-- A record that is stored was given to a call that stores. -/
lemma exists_call_of_mem_writes (latest : Nat) (events : List Event) {given : ProvisionRecord}
    (h : given ∈ idle.writes latest events) : ∃ t, .call t (.store given) ∈ events := by
  induction events using List.reverseRecOn with
  | nil => cases h
  | append_singleton events event ih =>
    rw [writes_append] at h
    rcases List.mem_append.1 h with hbefore | hnow
    · obtain ⟨t, ht⟩ := ih hbefore
      exact ⟨t, List.mem_append_left _ ht⟩
    · rw [writes, writes, List.append_nil, Option.mem_toList] at hnow
      cases event with
      | step t =>
        -- the thread stands where it stores, so it has called to do so
        have hpoint := Point.eq_of_stores? hnow
        have hcall := (sound_idle.run latest events).knows t
        rw [hpoint] at hcall
        refine ⟨t, List.mem_append_left _ ?_⟩
        rw [← hcall.call_of_store]
        exact called_run latest events t (by rw [hpoint]; nofun)
      | _ => cases hnow

/-- What a call answers is allowed by the state in which it returns. -/
lemma Sound.allows (h : w.Sound) {call : Call} {answer : Answer}
    (hreturns : w.Returns t call answer) :
    call.Allows w.record w.now (w.thread t).since answer := by
  have hknows := h.knows t
  rw [hreturns.1, hreturns.2] at hknows
  exact hknows.allows

/-- Who sleeps on while there is a record is about to be notified by the thread that stored it. -/
lemma Sound.about_to_be_notified (h : w.Sound) {deadline : Option Nat}
    (hasleep : (w.thread t).point = .asleep deadline false) :
    w.record = none ∨ ∃ u given, w.holder = some u ∧ (w.thread u).call = .store given ∧
      (w.thread u).point = .notifying := by
  refine (h.heard t deadline hasleep).imp_right fun ⟨u, hu⟩ => ?_
  have hknows := h.knows u
  rw [hu] at hknows
  obtain ⟨given, hcall⟩ := hknows.call_of_notifying
  exact ⟨u, given, (h.holds_iff u).1 (by rw [hu]; rfl), hcall, hu⟩

/-! ## From the beginning -/

lemma record_idle_run (latest : Nat) (events : List Event) :
    (idle.run latest events).record = (idle.writes latest events).getLast? := by
  rw [record_run]
  exact Option.or_none

/-- What a call answers is allowed by the record that was stored last. -/
lemma allows_of_returns (latest : Nat) (events : List Event) {call : Call} {answer : Answer}
    (h : (idle.run latest events).Returns t call answer) :
    call.Allows (idle.writes latest events).getLast? (idle.run latest events).now
      ((idle.run latest events).thread t).since answer := by
  rw [← record_idle_run]
  exact (sound_idle.run latest events).allows h

/-- Once a call that stores has returned, there is a record for good. -/
lemma getLast?_writes_of_returns {front : List Event} {given : ProvisionRecord}
    (h : (idle.run latest front).Returns t (.store given) .done) (later : List Event) :
    (idle.writes latest (front ++ later)).getLast? ≠ none := by
  have hfront : (idle.run latest front).record = some given :=
    (sound_idle.run latest front).allows h
  rw [← record_idle_run, run_append, record_run, hfront]
  simp

end World

/-! ## What the callers see -/

/-- **Handing the record over is safe in every interleaving.**  `last` is the record that was stored
last, by a thread whose lock section is over whenever another thread returns.  Every record that is
read, as a whole or into a buffer, is that one, and once one is stored it is never missed.  A thread
that waits returns when there is a record; it gives up only after its time, and when there is none.
A thread is in the wait set without having been notified only while there is no record, or while the
thread that stores one is about to notify it and still holds the lock. -/
theorem safe_run (latest : Nat) (events : List Event) :
    let w := World.idle.run latest events
    let writes := World.idle.writes latest events
    let last := writes.getLast?
    (∀ given ∈ writes, ∃ t, .call t (.store given) ∈ events) ∧
      (∀ t u, (w.thread t).point.holds = true → (w.thread u).point.holds = true → u = t) ∧
      (∀ t answer, w.Returns t .record answer →
        answer = .record (HandOver.record.run last).result) ∧
      (∀ t buffer answer, w.Returns t (.get buffer) answer →
        answer = .copied (HandOver.get last buffer)) ∧
      (∀ t given front later, events = front ++ later →
        (World.idle.run latest front).Returns t (.store given) .done →
          last ≠ none ∧
            (∀ u, ¬w.Returns u .record (.record (.error .notProvisioned))) ∧
            ∀ u buffer left, ¬w.Returns u (.get buffer) (.copied (.error .notProvisioned, left))) ∧
      (∀ t answer, w.Returns t .wait answer → answer = .done ∧ last ≠ none) ∧
      (∀ t limit answer, w.Returns t (.waitTimeout limit) answer →
        answer = .found true ∧ last ≠ none ∨
          answer = .found false ∧ last = none ∧ (w.thread t).since + limit ≤ w.now) ∧
      (∀ t patience answer, w.Returns t (.waitForRecord patience) answer →
        (∃ given, answer = .record (.ok given) ∧ last = some given) ∨
          answer = .record (.error .notProvisioned) ∧ last = none ∧
            ∃ limit ∈ patience.limit?, (w.thread t).since + limit ≤ w.now) ∧
      ∀ t deadline, (w.thread t).point = .asleep deadline false →
        last = none ∨ ∃ u given, w.holder = some u ∧ (w.thread u).call = .store given ∧
          (w.thread u).point = .notifying := by
  intro w writes last
  have hsound : w.Sound := World.sound_idle.run latest events
  have hallows : ∀ {t call answer}, w.Returns t call answer →
      call.Allows last w.now (w.thread t).since answer := World.allows_of_returns latest events
  refine ⟨fun given => World.exists_call_of_mem_writes latest events,
    fun t u => hsound.eq_of_holds, fun t answer h => allows_record (hallows h),
    fun t buffer answer h => allows_get (hallows h), ?_,
    fun t answer h => allows_wait (hallows h),
    fun t limit answer h => allows_waitTimeout (hallows h),
    fun t patience answer h => allows_waitForRecord (hallows h), fun t deadline hasleep => ?_⟩
  · rintro t given front later rfl hstored
    have hne : last ≠ none := World.getLast?_writes_of_returns hstored later
    exact ⟨hne, fun u h => not_allows_missed hne (hallows h),
      fun u buffer left h => not_allows_missed_copy hne (hallows h)⟩
  · have hlast : w.record = last := World.record_idle_run latest events
    rw [← hlast]
    exact hsound.about_to_be_notified hasleep

/-- **No wake-up is lost.**  Once a record is stored and the lock is free, every thread in the wait
set has been notified, and needs only its own steps to return with success. -/
theorem returns_of_asleep (latest : Nat) (events : List Event) {t : Nat} {deadline : Option Nat}
    {notified : Bool} {found : ProvisionRecord} :
    let w := World.idle.run latest events
    w.holder = none → w.record = some found → (w.thread t).point = .asleep deadline notified →
      notified = true ∧
        Leads latest t (w.after latest (.wake t))
          (w.put t { w.thread t with point := .ended ((w.thread t).call.success found) }) := by
  intro w hfree hrecord hasleep
  have hsound : w.Sound := World.sound_idle.run latest events
  refine ⟨?_, ?_⟩
  · by_contra hmissed
    rw [Bool.eq_false_iff.2 hmissed] at hasleep
    rcases hsound.about_to_be_notified hasleep with hnone | ⟨u, given, hholder, -⟩
    · rw [hrecord] at hnone
      cases hnone
    · rw [hfree] at hholder
      cases hholder
  · have hknows := hsound.knows t
    rw [hasleep] at hknows
    have hwake : w.after latest (.wake t) =
        w.put t ⟨(w.thread t).call, (w.thread t).since, .entering (.await deadline)⟩ := by
      simp only [World.after, hasleep, World.move]
    rw [hwake]
    exact leads_found hfree hrecord hknows.waits_of_asleep deadline

/-! ## A run -/

/-- A record that is handed over. -/
def sample : ProvisionRecord := ⟨[1], "h", 1883⟩

/-- Thread 0 waits for the record as a device does, and goes to sleep; thread 1 stores it and is
about to notify. -/
def storing : List Event :=
  [.call 0 (.waitForRecord .unbounded), .step 0, .step 0, .step 0,
    .call 1 (.store sample), .step 1, .step 1]

/-- Thread 1 has notified, and returns. -/
def stored : List Event := storing ++ [.step 1]

/-- Thread 0 wakes up, takes the lock twice, and returns. -/
def fetched : List Event :=
  stored ++ [.step 1, .wake 0, .step 0, .step 0, .step 0, .step 0, .step 0]

/-- Thread 2 copies the record into a buffer, and returns. -/
def copied : List Event :=
  fetched ++ [.step 0, .call 2 (.get (List.replicate 5 0))] ++ List.replicate 7 (.step 2)

/-- Thread 3 finds the record without having to wait, and returns. -/
def waited : List Event := copied ++ [.step 2, .call 3 .wait, .step 3, .step 3]

/-- Thread 4 reads the record, and returns. -/
def readAgain : List Event := waited ++ [.step 3, .call 4 .record, .step 4, .step 4]

/-- A thread waits for five nanoseconds with nobody to help it, and returns. -/
def waitedInVain : List Event :=
  [.call 0 (.waitTimeout 5), .step 0, .step 0, .step 0, .tick 5, .step 0]

/-- In the first of these runs a record is stored and a thread sleeps that is yet to be notified.
In the next ones each reader gets this record, and in the last one there is none. -/
theorem safe_run_sample :
    let last := fun events : List Event => (World.idle.writes 100 events).getLast?
    (∃ u given, (World.idle.run 100 storing).holder = some u ∧
        ((World.idle.run 100 storing).thread u).call = .store given ∧
        ((World.idle.run 100 storing).thread u).point = .notifying) ∧
      last stored ≠ none ∧
      last fetched = some sample ∧
      HandOver.get (last copied) (List.replicate 5 0) = (.ok 5, [1, 104, 0, 7, 91]) ∧
      last waited ≠ none ∧
      (HandOver.record.run (last readAgain)).result = .ok sample ∧
      last waitedInVain = none := by
  intro last
  obtain ⟨-, -, -, -, -, -, -, -, hstoring⟩ := safe_run 100 storing
  obtain ⟨-, -, -, -, hstored, -⟩ := safe_run 100 stored
  obtain ⟨-, -, -, -, -, -, -, hfetched, -⟩ := safe_run 100 fetched
  obtain ⟨-, -, -, hcopied, -⟩ := safe_run 100 copied
  obtain ⟨-, -, -, -, -, hwaited, -⟩ := safe_run 100 waited
  obtain ⟨-, -, hread, -⟩ := safe_run 100 readAgain
  obtain ⟨-, -, -, -, -, -, hinVain, -⟩ := safe_run 100 waitedInVain
  refine ⟨?_, ?_, ?_, ?_, ?_, ?_, ?_⟩
  · exact (hstoring 0 none rfl).resolve_left nofun
  · exact (hstored 1 sample stored [] rfl ⟨rfl, rfl⟩).1
  · rcases hfetched 0 .unbounded (.record (.ok sample)) ⟨rfl, rfl⟩ with
      ⟨given, hanswer, hlast⟩ | ⟨hanswer, -⟩
    · cases hanswer
      exact hlast
    · cases hanswer
  · have hanswer := hcopied 2 _ (.copied (.ok 5, [1, 104, 0, 7, 91])) ⟨rfl, rfl⟩
    exact (Answer.copied.inj hanswer).symm
  · exact (hwaited 3 .done ⟨rfl, rfl⟩).2
  · have hanswer := hread 4 (.record (.ok sample)) ⟨rfl, rfl⟩
    exact (Answer.record.inj hanswer).symm
  · rcases hinVain 0 5 (.found false) ⟨rfl, rfl⟩ with ⟨hanswer, -⟩ | ⟨-, hlast, -⟩
    · cases hanswer
    · exact hlast

end HandOver

end DeviceIdentity

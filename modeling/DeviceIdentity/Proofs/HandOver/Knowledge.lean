import DeviceIdentity.Proofs.HandOver.Threads

/-!
# What a thread knows about the record

While a thread holds the lock no other one stores a record, so what it has found out is still true
when it gives the lock up, and it answers what the whole call would answer then.  Without the lock,
a thread knows only that a record that was there has not gone away.

* `Call.Allows` — the answers that a call may give in a state.
* `Knows` — what a thread knows by where it stands.
* **`knows_next`** — what it does next keeps that up.
* **`Knows.later`, `Knows.stored`** — what happens meanwhile does not disturb it.
* `not_allows_missed`, `not_allows_missed_copy` — a record that is there is not missed.
-/

namespace DeviceIdentity

namespace HandOver

/-- The call waits, and not beyond a deadline before its time is over. -/
structure Call.Awaits (call : Call) (since : Nat) (deadline : Option Nat) : Prop where
  waits : call.waits = true
  late : ∀ d ∈ deadline, ∃ limit ∈ call.limit?, since + limit ≤ d

/-- The answers that a call may give that began at a time, where the record and the clock stand like
this. -/
def Call.Allows (record : HandOver) (now since : Nat) : Call → Answer → Prop
  | .store given, .done => record = some given
  | .record, .record result => result = (HandOver.record.run record).result
  | .get buffer, .copied copied => copied = HandOver.get record buffer
  | .wait, .done => record ≠ none
  | .waitTimeout limit, .found found =>
    found = record.isSome ∧ (record = none → since + limit ≤ now)
  | .waitForRecord patience, .record result =>
    result = (HandOver.record.run record).result ∧
      (record = none → ∃ limit ∈ patience.limit?, since + limit ≤ now)
  | _, _ => False

section Allows

variable {record : HandOver} {now since : Nat} {answer : Answer}

lemma allows_record (h : Call.record.Allows record now since answer) :
    answer = .record (HandOver.record.run record).result := by
  cases answer with
  | record result => exact congrArg Answer.record h
  | _ => exact h.elim

lemma allows_get {buffer : Bytes} (h : (Call.get buffer).Allows record now since answer) :
    answer = .copied (HandOver.get record buffer) := by
  cases answer with
  | copied copied => exact congrArg Answer.copied h
  | _ => exact h.elim

lemma allows_wait (h : Call.wait.Allows record now since answer) :
    answer = .done ∧ record ≠ none := by
  cases answer with
  | done => exact ⟨rfl, h⟩
  | _ => exact h.elim

lemma allows_waitTimeout {limit : Nat}
    (h : (Call.waitTimeout limit).Allows record now since answer) :
    answer = .found true ∧ record ≠ none ∨
      answer = .found false ∧ record = none ∧ since + limit ≤ now := by
  cases answer with
  | found found =>
    obtain ⟨rfl, hlate⟩ := h
    cases record with
    | none => exact .inr ⟨rfl, rfl, hlate rfl⟩
    | some given => exact .inl ⟨rfl, nofun⟩
  | _ => exact h.elim

lemma allows_waitForRecord {patience : Patience}
    (h : (Call.waitForRecord patience).Allows record now since answer) :
    (∃ given, answer = .record (.ok given) ∧ record = some given) ∨
      answer = .record (.error .notProvisioned) ∧ record = none ∧
        ∃ limit ∈ patience.limit?, since + limit ≤ now := by
  cases answer with
  | record result =>
    obtain ⟨rfl, hlate⟩ := h
    cases record with
    | none => exact .inr ⟨rfl, rfl, hlate rfl⟩
    | some given => exact .inl ⟨given, rfl, rfl⟩
  | _ => exact h.elim

end Allows

/-- What a thread takes the lock for belongs to its call.  A device that reads the record after it
has waited knows that there is one. -/
inductive Errand.Serves (record : HandOver) (since : Nat) : Errand → Call → Prop
  | store {given : ProvisionRecord} : Serves record since (.store given) (.store given)
  | read : Serves record since .read .record
  | again {patience : Patience} (hfound : record ≠ none) :
      Serves record since .read (.waitForRecord patience)
  | copy {buffer : Bytes} : Serves record since (.copy buffer) (.get buffer)
  | await {deadline : Option Nat} {call : Call} (hawaits : call.Awaits since deadline) :
      Serves record since (.await deadline) call

/-- What a thread knows about the record and the clock, by the call that it is in and by where it
stands. -/
inductive Knows (record : HandOver) (now since : Nat) : Call → Point → Prop
  | idle {call : Call} : Knows record now since call .idle
  | dating {call : Call} {limit : Nat} (hlimit : limit ∈ call.limit?) (hsince : since ≤ now) :
      Knows record now since call (.dating limit)
  | entering {call : Call} {errand : Errand} (hserves : errand.Serves record since call) :
      Knows record now since call (.entering errand)
  | inside {call : Call} {errand : Errand} (hserves : errand.Serves record since call) :
      Knows record now since call (.inside errand)
  | notifying {given : ProvisionRecord} (hrecord : record = some given) :
      Knows record now since (.store given) .notifying
  | copying {buffer done free : Bytes} {segments : Nat} {found : ProvisionRecord}
      (hrecord : record = some found)
      (hrest : ProvisionRecord.writeSegments done free (found.segments.drop segments) =
        found.write buffer) :
      Knows record now since (.get buffer) (.copying done free segments)
  | timing {call : Call} {deadline : Nat} (hawaits : call.Awaits since (some deadline))
      (hnone : record = none) : Knows record now since call (.timing deadline)
  | joining {call : Call} {deadline : Option Nat} (hawaits : call.Awaits since deadline)
      (hnone : record = none) : Knows record now since call (.joining deadline)
  | asleep {call : Call} {deadline : Option Nat} {notified : Bool}
      (hawaits : call.Awaits since deadline) :
      Knows record now since call (.asleep deadline notified)
  | turning {patience : Patience} (hfound : record ≠ none) :
      Knows record now since (.waitForRecord patience) .turning
  | leaving {call : Call} {answer : Answer} (hallows : call.Allows record now since answer) :
      Knows record now since call (.leaving answer)
  | ended {call : Call} {answer : Answer} : Knows record now since call (.ended answer)

section Knows

variable {latest now now' since : Nat} {record record' : HandOver} {call : Call} {point : Point}
  {errand : Errand} {deadline : Option Nat}

lemma Call.waits_of_limit {limit : Nat} (h : limit ∈ call.limit?) : call.waits = true := by
  cases call with
  | waitTimeout => rfl
  | waitForRecord => rfl
  | _ => cases h

lemma knows_start (record : HandOver) (now : Nat) (call : Call) :
    Knows record now now call call.start := by
  have hnone : ∀ {call : Call}, call.waits = true → call.Awaits now none :=
    fun hwaits => ⟨hwaits, nofun⟩
  cases call with
  | store => exact .entering .store
  | record => exact .entering .read
  | get => exact .entering .copy
  | wait => exact .entering (.await (hnone rfl))
  | waitTimeout limit => exact .dating rfl (Nat.le_refl now)
  | waitForRecord patience =>
    rw [Call.start]
    split
    · next limit hlimit => exact .dating hlimit (Nat.le_refl now)
    · exact .entering (.await (hnone rfl))

/-- A thread that has waited and found a record. -/
lemma knows_found (hawaits : call.Awaits since deadline) (hfound : record ≠ none) :
    Knows record now since call call.found := by
  cases call with
  | wait => exact .leaving hfound
  | waitTimeout limit =>
    exact .leaving ⟨(Option.isSome_iff_ne_none.2 hfound).symm, fun hnone => (hfound hnone).elim⟩
  | waitForRecord patience => exact .turning hfound
  | _ => cases hawaits.waits

/-- A thread that has waited in vain until its deadline. -/
lemma knows_gaveUp {d : Nat} (hawaits : call.Awaits since (some d)) (hnone : record = none)
    (hlate : d ≤ now) : Knows record now since call call.gaveUp := by
  obtain ⟨limit, hlimit, hle⟩ := hawaits.late d rfl
  have hover : since + limit ≤ now := Nat.le_trans hle hlate
  subst hnone
  cases call with
  | waitTimeout =>
    cases hlimit
    exact .leaving ⟨rfl, fun _ => hover⟩
  | waitForRecord patience => exact .leaving ⟨rfl, fun _ => ⟨limit, hlimit, hover⟩⟩
  | _ => cases hlimit

/-- What a thread that has just taken the lock does first. -/
lemma knows_next_inside (h : errand.Serves record since call) :
    Knows ((Point.inside errand).stores?.or record) now since call
      ((Point.inside errand).next latest call record now) := by
  cases h with
  | store => exact .notifying rfl
  | read => exact .leaving rfl
  | again hfound => exact .leaving ⟨rfl, fun hnone => (hfound hnone).elim⟩
  | copy =>
    cases hrecord : record with
    | none => exact .leaving rfl
    | some found => exact .copying rfl rfl
  | @await deadline _ hawaits =>
    cases hrecord : record with
    | some found => exact knows_found hawaits nofun
    | none =>
      cases deadline with
      | none => exact .joining hawaits rfl
      | some d => exact .timing hawaits rfl

/-- **What a thread does next keeps up what it knows.** -/
lemma knows_next (h : Knows record now since call point) :
    Knows (point.stores?.or record) now since call (point.next latest call record now) := by
  cases h with
  | idle => exact .idle
  | @dating _ limit hlimit hsince =>
    refine .entering (.await ⟨Call.waits_of_limit hlimit, fun d hd => ⟨limit, hlimit, ?_⟩⟩)
    split_ifs at hd
    · cases hd
      exact Nat.add_le_add_right hsince limit
    · cases hd
  | entering hserves => exact .inside hserves
  | inside hserves => exact knows_next_inside hserves
  | notifying hrecord => exact .leaving hrecord
  | @copying buffer done free segments found hrecord hrest =>
    subst hrecord
    cases hleft : found.segments.drop segments with
    | nil =>
      rw [Point.next_copying_of_nil hleft]
      rw [hleft] at hrest
      exact .leaving hrest
    | cons segment rest =>
      rw [hleft, ProvisionRecord.writeSegments] at hrest
      rw [Point.next_copying_of_cons hleft]
      split_ifs at hrest ⊢ with hfits
      · refine .copying rfl ?_
        rw [Point.drop_of_cons hleft]
        exact hrest
      · exact .leaving hrest
  | @timing _ d hawaits hnone =>
    rw [Point.next]
    split_ifs with hlate
    · exact knows_gaveUp hawaits hnone hlate
    · exact .joining hawaits hnone
  | joining hawaits => exact .asleep hawaits
  | asleep hawaits => exact .asleep hawaits
  | turning hfound => exact .entering (.again hfound)
  | leaving => exact .ended
  | ended => exact .ended

/-- An answer that is allowed stays so while time passes. -/
lemma Call.Allows.later {answer : Answer} (h : call.Allows record now since answer)
    (hnow : now ≤ now') : call.Allows record now' since answer := by
  cases call <;> cases answer <;> try exact h
  case waitTimeout.found limit found =>
    obtain ⟨hfound, hlate⟩ := h
    exact ⟨hfound, fun hnone => Nat.le_trans (hlate hnone) hnow⟩
  case waitForRecord.record patience result =>
    obtain ⟨hresult, hlate⟩ := h
    refine ⟨hresult, fun hnone => ?_⟩
    obtain ⟨limit, hlimit, hle⟩ := hlate hnone
    exact ⟨limit, hlimit, Nat.le_trans hle hnow⟩

lemma Errand.Serves.stored (h : errand.Serves record since call) (hstored : record' ≠ none) :
    errand.Serves record' since call := by
  cases h with
  | store => exact .store
  | read => exact .read
  | again => exact .again hstored
  | copy => exact .copy
  | await hawaits => exact .await hawaits

/-- What a thread knows stays true while time passes. -/
lemma Knows.later (h : Knows record now since call point) (hnow : now ≤ now') :
    Knows record now' since call point := by
  cases h with
  | idle => exact .idle
  | dating hlimit hsince => exact .dating hlimit (Nat.le_trans hsince hnow)
  | entering hserves => exact .entering hserves
  | inside hserves => exact .inside hserves
  | notifying hrecord => exact .notifying hrecord
  | copying hrecord hrest => exact .copying hrecord hrest
  | timing hawaits hnone => exact .timing hawaits hnone
  | joining hawaits hnone => exact .joining hawaits hnone
  | asleep hawaits => exact .asleep hawaits
  | turning hfound => exact .turning hfound
  | leaving hallows => exact .leaving (hallows.later hnow)
  | ended => exact .ended

/-- What a thread knows that does not hold the lock stays true when a record is stored. -/
lemma Knows.stored (h : Knows record now since call point) (hfree : point.holds = false)
    (hstored : record' ≠ none) : Knows record' now since call point := by
  cases h with
  | idle => exact .idle
  | dating hlimit hsince => exact .dating hlimit hsince
  | entering hserves => exact .entering (hserves.stored hstored)
  | asleep hawaits => exact .asleep hawaits
  | ended => exact .ended
  | _ => cases hfree

lemma Knows.allows {answer : Answer} (h : Knows record now since call (.leaving answer)) :
    call.Allows record now since answer := by
  cases h with
  | leaving hallows => exact hallows

lemma Knows.call_of_store {given : ProvisionRecord}
    (h : Knows record now since call (.inside (.store given))) : call = .store given := by
  cases h with
  | inside hserves =>
    cases hserves with
    | store => rfl

lemma Knows.call_of_notifying (h : Knows record now since call .notifying) :
    ∃ given, call = .store given := by
  cases h with
  | notifying => exact ⟨_, rfl⟩

/-- A thread that wakes up takes the lock to look again. -/
lemma Knows.of_asleep {notified : Bool}
    (h : Knows record now since call (.asleep deadline notified)) :
    Knows record now since call (.entering (.await deadline)) := by
  cases h with
  | asleep hawaits => exact .entering (.await hawaits)

lemma Knows.waits_of_asleep {notified : Bool}
    (h : Knows record now since call (.asleep deadline notified)) : call.waits = true := by
  cases h with
  | asleep hawaits => exact hawaits.waits

lemma Knows.none_of_joining (h : Knows record now since call (.joining deadline)) :
    record = none := by
  cases h with
  | joining _ hnone => exact hnone

/-- Being notified tells a thread nothing. -/
lemma Knows.notified (h : Knows record now since call point) :
    Knows record now since call point.notified := by
  cases point with
  | asleep =>
    cases h with
    | asleep hawaits => exact .asleep hawaits
  | _ => exact h

end Knows

/-- Copying a record fails for want of room only. -/
lemma writeSegments_ne_notProvisioned (done free : Bytes) (segments : List Bytes) :
    (ProvisionRecord.writeSegments done free segments).1 ≠ .error .notProvisioned := by
  induction segments generalizing done free with
  | nil => simp [ProvisionRecord.writeSegments]
  | cons segment rest ih =>
    rw [ProvisionRecord.writeSegments]
    split_ifs
    · exact ih _ _
    · simp

section Missed

variable {record : HandOver} {now since : Nat} (hne : record ≠ none)
include hne

/-- A record that is there is not missed by who reads it. -/
lemma not_allows_missed :
    ¬Call.record.Allows record now since (.record (.error .notProvisioned)) := by
  intro h
  obtain ⟨found, rfl⟩ := Option.ne_none_iff_exists'.1 hne
  cases allows_record h

/-- Nor by who copies it. -/
lemma not_allows_missed_copy {buffer left : Bytes} :
    ¬(Call.get buffer).Allows record now since (.copied (.error .notProvisioned, left)) := by
  intro h
  obtain ⟨found, rfl⟩ := Option.ne_none_iff_exists'.1 hne
  have hcopied := Answer.copied.inj (allows_get h)
  exact writeSegments_ne_notProvisioned _ _ _ (congrArg Prod.fst hcopied).symm

end Missed

end HandOver

end DeviceIdentity

import DeviceIdentity.Proofs.Partition.Run

/-!
# Keys are written once

A key that is stored under an identifier stays there as it is, whatever is done with the partition
afterwards, so its public key never changes.  A new key is stored by importing or deriving it under
a free identifier, and in no other way.

While the partition is out of reach its users get errors and nothing else, so a run does the same
without what they asked then.

* `Change.keys_ne_iff` — which operations change the stored keys.
* `key?_after_of_mem` — a key that an event of a run finds is there at the end of the run.
* `withoutUnreachable` — a run without what was asked out of reach, and
  `events_withoutUnreachable` — its events are the other events of the run.
* **`keys_written_once`** — all of this.
-/

namespace DeviceIdentity

namespace Partition

open Operation

variable {s s' : Partition} {operation : Operation} {id : KeyId} {key : StoredKey}

/-! ## One operation -/

lemma Change.key? (h : Change s operation s') (hkey : s.key? id = some key) :
    s'.key? id = some key := by
  cases h with
  | nothing => exact hkey
  | reach => exact hkey
  | suffix => exact hkey
  | uuid => exact hkey
  | key hoffer hfree => exact (extends_store hfree _).key? hkey

/-- The stored keys change when a key is offered for a free identifier, and then by this key. -/
lemma Change.keys_ne_iff (h : Change s operation s') :
    s'.keys ≠ s.keys ↔
      ∃ id key, operation.offer? s = some (id, key) ∧ s.key? id = none ∧ s' = s.store id key := by
  constructor
  · intro hne
    cases h with
    | nothing => exact (hne rfl).elim
    | reach => exact (hne rfl).elim
    | suffix => exact (hne rfl).elim
    | uuid => exact (hne rfl).elim
    | key hoffer hfree => exact ⟨_, _, hoffer, hfree, rfl⟩
  · rintro ⟨id, key, -, -, rfl⟩
    exact List.cons_ne_self _ _

/-- A key that is offered for a free identifier is stored. -/
lemma Change.eq_store (h : Change s operation s') (hoffer : operation.offer? s = some (id, key))
    (hfree : s.key? id = none) : s' = s.store id key := by
  cases h with
  | nothing hstored =>
    have htaken := hstored hoffer
    rw [hfree] at htaken
    cases htaken
  | reach => cases hoffer
  | suffix => cases hoffer
  | uuid => cases hoffer
  | key hoffer' =>
    rw [hoffer] at hoffer'
    obtain ⟨rfl, rfl⟩ := Prod.mk.inj (Option.some.inj hoffer')
    rfl

/-- Offering a key has no value to answer with. -/
lemma answer_of_offer {answer : Answer} (hoffer : operation.offer? s = some (id, key))
    (h : operation.run.Returns s answer s') : answer = .done := by
  cases operation with
  | setLabelSuffix => cases hoffer
  | call c =>
    cases c with
    | importKey =>
      obtain ⟨_, -, hanswer⟩ := returns_wrapped.1 h
      exact hanswer.symm
    | deriveKey =>
      obtain ⟨_, -, hanswer⟩ := returns_wrapped.1 h
      exact hanswer.symm
    | _ => cases hoffer

/-- Done or failed, an operation leaves a stored key as it is. -/
lemma key?_run (operation : Operation) (hkey : s.key? id = some key) :
    (operation.run.run s).state.key? id = some key := by
  rcases operation.run.returns_or_fails s with ⟨answer, hreturns⟩ | ⟨e, hfails⟩
  · exact (change_of_returns hreturns).2.key? hkey
  · rw [eq_of_fails hfails]
    exact hkey

/-- The stored keys change when an operation that offers a key for a free identifier is done. -/
lemma keys_run_ne_iff :
    (operation.run.run s).state.keys ≠ s.keys ↔
      ∃ id key, operation.offer? s = some (id, key) ∧ s.key? id = none ∧
        operation.run.Returns s .done (s.store id key) := by
  rcases operation.run.returns_or_fails s with ⟨answer, hreturns⟩ | ⟨e, hfails⟩
  · rw [(change_of_returns hreturns).2.keys_ne_iff]
    constructor
    · rintro ⟨id, key, hoffer, hfree, hstate⟩
      obtain rfl := answer_of_offer hoffer hreturns
      rw [hstate] at hreturns
      exact ⟨id, key, hoffer, hfree, hreturns⟩
    · rintro ⟨id, key, hoffer, hfree, -, hstate⟩
      exact ⟨id, key, hoffer, hfree, hstate⟩
  · constructor
    · intro hne
      rw [eq_of_fails hfails] at hne
      exact (hne rfl).elim
    · rintro ⟨id, key, -, -, hresult, -⟩
      rw [hfails.1] at hresult
      cases hresult

/-- Storing a key under a free identifier is all that offering it does when it is done. -/
lemma returns_of_offer {answer : Answer} (hoffer : operation.offer? s = some (id, key))
    (hfree : s.key? id = none) (h : operation.run.Returns s answer s') :
    answer = .done ∧ s' = s.store id key :=
  ⟨answer_of_offer hoffer h, (change_of_returns h).2.eq_store hoffer hfree⟩

/-! ## Runs -/

lemma key?_after {operations : List Operation} (hkey : s.key? id = some key) :
    (after s operations).key? id = some key := by
  induction operations generalizing s with
  | nil => exact hkey
  | cons operation rest ih => exact ih (key?_run operation hkey)

/-- What an event of a run finds under an identifier is there at the end of the run. -/
lemma key?_after_of_mem {operations : List Operation} {e : Event} (he : e ∈ events s operations)
    (hkey : e.before.key? id = some key) : (after s operations).key? id = some key := by
  induction operations generalizing s with
  | nil => cases he
  | cons operation rest ih =>
    rcases List.mem_cons.1 he with rfl | hrest
    · have hlater : (after (operation.run.run s).state rest).key? id = some key :=
        key?_after (key?_run operation hkey)
      exact hlater
    · exact ih hrest

/-- A public key that is given out in a run is that of the key stored at the end of the run. -/
lemma exported_eq {operations : List Operation} {e : Event} {raw : Bytes}
    (he : e ∈ events s operations) (hexport : e.operation = .call (.exportKey id))
    (hresult : e.outcome.result = .ok (.octets raw)) :
    ∃ stored, (after s operations).key? id = some stored ∧
      raw = stored.privateKey.point.encode := by
  rw [Event.outcome, hexport] at hresult
  obtain ⟨exported, hreturns, hanswer⟩ := returns_wrapped.1 (Action.returns_of_result hresult)
  obtain ⟨-, -, stored, hstored, hraw⟩ := returns_exportKey.1 hreturns
  exact ⟨stored, key?_after_of_mem he hstored, (Answer.octets.inj hanswer).symm.trans hraw⟩

/-! ## Out of reach -/

/-- A run without the operations that need the partition and meet it out of reach. -/
def withoutUnreachable (s : Partition) : List Operation → List Operation
  | [] => []
  | operation :: rest =>
    let kept := withoutUnreachable (operation.run.run s).state rest
    if s.online = false ∧ operation.needsReach = true then kept else operation :: kept

/-- Whether an event is one that the run keeps. -/
def Event.reaches (e : Event) : Bool :=
  e.before.online || !e.operation.needsReach

/-- Out of reach, an operation that needs the partition does nothing. -/
lemma state_of_unreachable (hoffline : s.online = false) (hneeds : operation.needsReach = true) :
    (operation.run.run s).state = s := by
  obtain ⟨e, hfails⟩ := fails_of_offline hneeds hoffline
  exact hfails.2

/-- Without what was asked out of reach, a run has the same other events. -/
lemma events_withoutUnreachable (operations : List Operation) :
    events s (withoutUnreachable s operations) = (events s operations).filter Event.reaches := by
  -- what is dropped did nothing, so the rest of the run meets the state that it met before
  induction operations generalizing s with
  | nil => rfl
  | cons operation rest ih =>
    by_cases hdrop : s.online = false ∧ operation.needsReach = true
    · have hreaches : Event.reaches ⟨s, operation⟩ = false := by
        simp [Event.reaches, hdrop.1, hdrop.2]
      have hstate := state_of_unreachable hdrop.1 hdrop.2
      simp only [withoutUnreachable, events, if_pos hdrop, hstate, List.filter_cons, hreaches, ih]
      rfl
    · have hreaches : Event.reaches ⟨s, operation⟩ = true := by
        simpa [Event.reaches, or_iff_not_imp_left] using hdrop
      simp only [withoutUnreachable, events, if_neg hdrop, List.filter_cons, hreaches, ih, if_true]

lemma after_withoutUnreachable (operations : List Operation) :
    after s (withoutUnreachable s operations) = after s operations := by
  induction operations generalizing s with
  | nil => rfl
  | cons operation rest ih =>
    by_cases hdrop : s.online = false ∧ operation.needsReach = true
    · have hstate := state_of_unreachable hdrop.1 hdrop.2
      simp only [withoutUnreachable, if_pos hdrop, hstate, ih]
      rw [after, after, List.foldl_cons, hstate]
    · simp only [withoutUnreachable, if_neg hdrop]
      exact ih

/-! ## The main result -/

/-- **Keys are written once.**  From every state, an operation leaves every stored key as it is, and
one that fails does nothing at all.  The stored keys change exactly when an operation that offers a
key for a free identifier is done; storing this key is then all that happens.  So all public keys
that are given out under one identifier in a run are the same.  And without what was asked while the
partition was out of reach, a run meets the same states, gives the same answers, and ends in the
same state. -/
theorem keys_written_once (s : Partition) :
    (∀ operation : Operation,
      (∀ id key, s.key? id = some key → (operation.run.run s).state.key? id = some key) ∧
      (∀ e, (operation.run.run s).result = .error e → (operation.run.run s).state = s) ∧
      ((operation.run.run s).state.keys ≠ s.keys ↔
        ∃ id key, operation.offer? s = some (id, key) ∧ s.key? id = none ∧
          operation.run.Returns s .done (s.store id key)) ∧
      (∀ id key answer, operation.offer? s = some (id, key) → s.key? id = none →
        (operation.run.run s).result = .ok answer →
          operation.run.Returns s .done (s.store id key))) ∧
    (∀ operations, ∀ e ∈ events s operations, ∀ e' ∈ events s operations, ∀ id raw raw',
      e.operation = .call (.exportKey id) → e.outcome.result = .ok (.octets raw) →
        e'.operation = .call (.exportKey id) → e'.outcome.result = .ok (.octets raw') →
          raw = raw') ∧
    (∀ operations,
      events s (withoutUnreachable s operations) =
          (events s operations).filter (fun e => e.before.online || !e.operation.needsReach) ∧
        after s (withoutUnreachable s operations) = after s operations) := by
  refine ⟨fun operation => ⟨?_, ?_, ?_, ?_⟩, ?_, ?_⟩
  · exact fun id key => key?_run operation
  · exact fun e he => eq_of_fails ⟨he, rfl⟩
  · exact keys_run_ne_iff
  · intro id key answer hoffer hfree hresult
    have hreturns := Action.returns_of_result hresult
    obtain ⟨rfl, hstate⟩ := returns_of_offer hoffer hfree hreturns
    rw [hstate] at hreturns
    exact hreturns
  · -- both are the public key of the key that the run ends with
    intro operations e he e' he' id raw raw' hexport hresult hexport' hresult'
    obtain ⟨stored, hstored, rfl⟩ := exported_eq he hexport hresult
    obtain ⟨stored', hstored', rfl⟩ := exported_eq he' hexport' hresult'
    rw [Option.some.inj (hstored.symm.trans hstored')]
  · intro operations
    exact ⟨events_withoutUnreachable operations, after_withoutUnreachable operations⟩

lemma scalar_one_ne_zero : (1 : P256.Scalar) ≠ 0 := by decide

/-- The number one as the key for TLS clients. -/
def unitKey : StoredKey := ⟨⟨1, scalar_one_ne_zero⟩, KeySlot.clientTls.usage⟩

/-- A key is imported and then asked for three times: out of reach, within reach again, and after
the suffix was set. -/
def pausedRun : List Operation :=
  [.call (.importKey KeyId.clientTls unitKey.usage (Ecdsa.scalarOctets unitKey.privateKey.scalar)),
    .call (.setOnline false), .call (.exportKey KeyId.clientTls),
    .call (.setOnline true), .call (.exportKey KeyId.clientTls),
    .setLabelSuffix "-next", .call (.exportKey KeyId.clientTls)]

/-- On an empty partition that run stores the key, fails without effect while out of reach, gives
out one public key before and after the new suffix, and does as well without the question that was
asked out of reach. -/
theorem keys_written_once_pausedRun :
    let start : Partition := { hardwareKey := Device.ones }
    let held := start.store KeyId.clientTls unitKey
    let renamed := held.setLabelSuffix "-next"
    let question := Operation.call (.exportKey KeyId.clientTls)
    pausedRun[0].run.Returns start .done held ∧
      renamed.key? KeyId.clientTls = some unitKey ∧
      (∃ e, question.run.Fails (held.setOnline false) e (held.setOnline false)) ∧
      (∃ raw, question.run.Returns held (.octets raw) held ∧
        question.run.Returns renamed (.octets raw) renamed) ∧
      events start (pausedRun.eraseIdx 2) = (events start pausedRun).eraseIdx 2 := by
  intro start held renamed question
  have hkey : held.key? KeyId.clientTls = some unitKey := key?_store_self _ _ _
  have hkey' : renamed.key? KeyId.clientTls = some unitKey :=
    ((keys_written_once held).1 (.setLabelSuffix "-next")).1 _ _ hkey
  have hanswer : question.run.Returns held (.octets unitKey.privateKey.point.encode) held :=
    returns_wrapped.2 ⟨_, returns_exportKey.2 ⟨rfl, rfl, unitKey, hkey, rfl⟩, rfl⟩
  have hanswer' : ∃ raw, question.run.Returns renamed (.octets raw) renamed :=
    ⟨_, returns_wrapped.2 ⟨_, returns_exportKey.2 ⟨rfl, rfl, unitKey, hkey', rfl⟩, rfl⟩⟩
  refine ⟨?_, hkey', ?_, ?_, ?_⟩
  · exact ((keys_written_once start).1 pausedRun[0]).2.2.2 _ _ .done rfl rfl rfl
  · exact ⟨.transportUnavailable, rfl,
      ((keys_written_once (held.setOnline false)).1 question).2.1 _ rfl⟩
  · obtain ⟨raw, hraw⟩ := hanswer'
    have hsame := (keys_written_once start).2.1 pausedRun
      ⟨held, question⟩ (List.mem_of_getElem? (i := 4) rfl)
      ⟨renamed, question⟩ (List.mem_of_getElem? (i := 6) rfl)
      KeyId.clientTls _ raw rfl hanswer.1 rfl hraw.1
    rw [hsame] at hanswer
    exact ⟨raw, hanswer, hraw⟩
  · exact ((keys_written_once start).2.2 pausedRun).1

end Partition

end DeviceIdentity

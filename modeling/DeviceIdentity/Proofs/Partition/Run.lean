import DeviceIdentity.Proofs.Partition.Extension

/-!
# Runs of a partition

A partition is called by its users, and whoever sets it up may give it another label suffix between
two calls.  A run is a list of such operations, carried out one after the other, whether they are
done or fail.

* `Partition.Operation` — a call, or a new suffix; `Partition.Event` — an operation and the state it
  meets; `Partition.events` — the events of a run.
* `Partition.Change` — all that an operation can do to the state when it is done, and
  `change_of_returns` — that it can do no more.
* **`eq_of_fails`** — an operation that fails does nothing to the state.
-/

namespace DeviceIdentity

namespace Partition

open DeviceIdentity.Action (AllOrNothing Keeps)

/-! ## Operations -/

/-- What can happen to a partition. -/
inductive Operation where
  | call (call : Call)
  | setLabelSuffix (suffix : String)

namespace Operation

/-- Carries out an operation. -/
def run : Operation → Action Partition Answer
  | call c => c.run
  | setLabelSuffix suffix => do
    Action.modify (service.setLabelSuffix suffix)
    return .done

/-- Whether the operation needs the partition to be within reach.  Only the switch that decides
about its reach does not, nor does the suffix, which is set on the nearer side. -/
def needsReach : Operation → Bool
  | call (.setOnline _) | setLabelSuffix _ => false
  | call _ => true

/-- The key that an operation offers to a partition, with the identifier it is to be stored
under. -/
def offer? (s : Partition) : Operation → Option (KeyId × StoredKey)
  | call (.importKey id usage scalar) =>
    (Ecdsa.PrivateKey.ofOctets? scalar).map fun key => (id, ⟨key, usage⟩)
  | call (.deriveKey id purpose usage) =>
    (Ecdsa.PrivateKey.ofOctets? (s.derivedScalar purpose)).map fun key => (id, ⟨key, usage⟩)
  | _ => none

end Operation

/-! ## Runs -/

/-- An operation of a run, and the state that it meets. -/
structure Event where
  before : Partition
  operation : Operation

/-- What the operation returns and leaves behind. -/
def Event.outcome (e : Event) : Outcome Partition Answer :=
  e.operation.run.run e.before

/-- The events of a run, in order. -/
def events (s : Partition) : List Operation → List Event
  | [] => []
  | operation :: rest => ⟨s, operation⟩ :: events (operation.run.run s).state rest

/-- The state after a run. -/
def after (s : Partition) (operations : List Operation) : Partition :=
  operations.foldl (fun s operation => (operation.run.run s).state) s

/-! ## What one operation does -/

/-- What an operation that is done can do to the state.  It does nothing only if the key that it
offers, should it offer one, is stored already. -/
inductive Change (s : Partition) : Operation → Partition → Prop
  | nothing {operation : Operation}
      (hstored : ∀ {id key}, operation.offer? s = some (id, key) → s.key? id = some key) :
      Change s operation s
  | reach {online : Bool} : Change s (.call (.setOnline online)) (s.setOnline online)
  | suffix {suffix : String} : Change s (.setLabelSuffix suffix) (s.setLabelSuffix suffix)
  | uuid {uuid : String} (h : s.knownUuid = none) :
      Change s (.call .deviceUuid) { s with knownUuid := some uuid }
  | key {operation : Operation} {id : KeyId} {key : StoredKey}
      (hoffer : operation.offer? s = some (id, key)) (hfree : s.key? id = none) :
      Change s operation (s.store id key)

section Operation

variable {s s' : Partition} {operation : Operation} {answer : Answer}

/-- A value that is wrapped was returned. -/
lemma returns_wrapped {α : Type} {step : Action Partition α} {wrap : α → Answer} :
    (step >>= fun a => pure (wrap a)).Returns s answer s' ↔
      ∃ a, step.Returns s a s' ∧ wrap a = answer := by
  simp only [Action.returns_bind, Action.returns_pure]
  constructor
  · rintro ⟨a, _, h, rfl, rfl⟩
    exact ⟨a, h, rfl⟩
  · rintro ⟨a, h, rfl⟩
    exact ⟨a, s', h, rfl, rfl⟩

/-- The UUID is known, or it is derived and then known. -/
lemma returns_deviceUuid {uuid : String} (h : deviceUuid.Returns s uuid s') :
    s.online = true ∧ (s' = s ∨ s.knownUuid = none ∧ s' = { s with knownUuid := some uuid }) := by
  obtain ⟨_, _, hrequire, h⟩ := Action.returns_bind.1 h
  obtain ⟨honline, rfl⟩ := returns_requireOnline.1 hrequire
  refine ⟨honline, ?_⟩
  obtain ⟨_, _, hget, h⟩ := Action.returns_bind.1 h
  obtain ⟨rfl, rfl⟩ := Action.returns_get.1 hget
  split at h
  · exact .inl (Action.returns_pure.1 h).2.symm
  · next hunknown =>
    -- deriving changes nothing, so what is remembered is added to the state that was met
    obtain ⟨derived, reached, hderive, h⟩ := Action.returns_bind.1 h
    obtain rfl : s = reached := keeps_uuid.of_returns hderive
    obtain ⟨_, _, hmodify, h⟩ := Action.returns_bind.1 h
    obtain rfl := Action.returns_modify.1 hmodify
    obtain ⟨rfl, rfl⟩ := Action.returns_pure.1 h
    exact .inr ⟨hunknown, rfl⟩

/-- The key that is offered is stored now, or was stored already. -/
lemma change_of_offer {id : KeyId} {key : StoredKey} (hoffer : operation.offer? s = some (id, key))
    (h : s.key? id = none ∧ s' = s.store id key ∨ s.key? id = some key ∧ s' = s) :
    Change s operation s' := by
  rcases h with ⟨hfree, rfl⟩ | ⟨hstored, rfl⟩
  · exact .key hoffer hfree
  · refine .nothing fun hoffer' => ?_
    rw [hoffer] at hoffer'
    obtain ⟨rfl, rfl⟩ := Prod.mk.inj (Option.some.inj hoffer')
    exact hstored

/-- **An operation that is done changes no more than it should**, and one that needs the partition
found it within reach. -/
lemma change_of_returns (h : operation.run.Returns s answer s') :
    (operation.needsReach = true → s.online = true) ∧ Change s operation s' := by
  cases operation with
  | setLabelSuffix suffix =>
    obtain ⟨_, hmodify, -⟩ := returns_wrapped.1 h
    obtain rfl := Action.returns_modify.1 hmodify
    exact ⟨nofun, .suffix⟩
  | call c =>
    cases c with
    | setOnline online =>
      obtain ⟨_, hmodify, -⟩ := returns_wrapped.1 h
      obtain rfl := Action.returns_modify.1 hmodify
      exact ⟨nofun, .reach⟩
    | deriveOctets label length =>
      obtain ⟨_, hderive, -⟩ := returns_wrapped.1 h
      obtain ⟨honline, -, -, -, rfl⟩ := returns_deriveOctets.1 hderive
      exact ⟨fun _ => honline, .nothing nofun⟩
    | importKey id usage scalar =>
      obtain ⟨_, himport, -⟩ := returns_wrapped.1 h
      obtain ⟨honline, key, hkey, hstate⟩ := returns_importKey.1 himport
      have hoffer : (Operation.call (.importKey id usage scalar)).offer? s =
        some (id, ⟨key, usage⟩) := by simp [Operation.offer?, hkey]
      exact ⟨fun _ => honline, change_of_offer hoffer hstate⟩
    | deriveKey id purpose usage =>
      obtain ⟨_, hderive, -⟩ := returns_wrapped.1 h
      obtain ⟨honline, key, hkey, hstate⟩ := returns_importKey.1 (returns_deriveKey.1 hderive)
      have hoffer : (Operation.call (.deriveKey id purpose usage)).offer? s =
        some (id, ⟨key, usage⟩) := by simp [Operation.offer?, hkey]
      exact ⟨fun _ => honline, change_of_offer hoffer hstate⟩
    | exportKey id =>
      obtain ⟨_, hexport, -⟩ := returns_wrapped.1 h
      obtain ⟨honline, rfl, -⟩ := returns_exportKey.1 hexport
      exact ⟨fun _ => honline, .nothing nofun⟩
    | sign id message =>
      obtain ⟨_, hsign, -⟩ := returns_wrapped.1 h
      obtain ⟨honline, -, hany⟩ := returns_sign.1 hsign
      obtain ⟨rfl, -⟩ := returns_signAny.1 hany
      exact ⟨fun _ => honline, .nothing nofun⟩
    | encodeValue id value format =>
      obtain ⟨_, hencode, -⟩ := returns_wrapped.1 h
      replace hencode : (encodeValue id value format).Returns s _ s' := hencode
      obtain rfl : s = s' := (keeps_encodeValue id value format).of_returns hencode
      refine ⟨fun _ => ?_, .nothing nofun⟩
      cases format with
      | claims => exact (returns_encodeValue_claims.1 hencode).1
      | signed => exact (returns_encodeValue_signed.1 hencode).1
    | deviceUuid =>
      obtain ⟨_, huuid, -⟩ := returns_wrapped.1 h
      obtain ⟨honline, rfl | ⟨hunknown, rfl⟩⟩ := returns_deviceUuid huuid
      · exact ⟨fun _ => honline, .nothing nofun⟩
      · exact ⟨fun _ => honline, .uuid hunknown⟩

lemma allOrNothing_deviceUuid : deviceUuid.AllOrNothing := by
  refine Action.allOrNothing_bind keeps_requireOnline fun _ => ?_
  refine Action.allOrNothing_bind Action.keeps_get fun s => ?_
  split
  · exact (Action.keeps_pure _).allOrNothing
  · refine Action.allOrNothing_bind keeps_uuid fun uuid => ?_
    exact Action.allOrNothing_bind_pure (Action.allOrNothing_modify _)

lemma allOrNothing_deriveKey (id : KeyId) (purpose : String) (usage : KeyUsage) :
    (service.deriveKey id purpose usage).AllOrNothing :=
  Action.allOrNothing_bind (keeps_ecPrivateKey purpose) fun scalar =>
    allOrNothing_importKey id usage scalar

/-- **An operation that fails does nothing to the state.** -/
lemma eq_of_fails {e : Failure} (h : operation.run.Fails s e s') : s' = s := by
  have hnothing : operation.run.AllOrNothing := by
    cases operation with
    | setLabelSuffix suffix => exact Action.allOrNothing_bind_pure (Action.allOrNothing_modify _)
    | call c =>
      cases c with
      | setOnline online => exact Action.allOrNothing_bind_pure (Action.allOrNothing_modify _)
      | deriveOctets label length =>
        exact Action.allOrNothing_bind_pure (keeps_deriveOctets label length).allOrNothing
      | importKey id usage scalar =>
        exact Action.allOrNothing_bind_pure (allOrNothing_importKey id usage scalar)
      | deriveKey id purpose usage =>
        exact Action.allOrNothing_bind_pure (allOrNothing_deriveKey id purpose usage)
      | exportKey id => exact Action.allOrNothing_bind_pure (keeps_exportKey id).allOrNothing
      | sign id message => exact Action.allOrNothing_bind_pure (keeps_sign id message).allOrNothing
      | encodeValue id value format =>
        exact Action.allOrNothing_bind_pure (keeps_encodeValue id value format).allOrNothing
      | deviceUuid => exact Action.allOrNothing_bind_pure allOrNothing_deviceUuid
  exact hnothing h

/-- Out of reach, an operation that needs the partition fails, and nothing happens. -/
lemma fails_of_offline (hneeds : operation.needsReach = true) (hoffline : s.online = false) :
    ∃ e, operation.run.Fails s e s := by
  rcases operation.run.returns_or_fails s with ⟨answer, hreturns⟩ | ⟨e, hfails⟩
  · -- an answer would show that the partition is within reach
    have honline := (change_of_returns hreturns).1 hneeds
    rw [hoffline] at honline
    cases honline
  · refine ⟨e, ?_⟩
    rwa [eq_of_fails hfails] at hfails

end Operation

end Partition

end DeviceIdentity

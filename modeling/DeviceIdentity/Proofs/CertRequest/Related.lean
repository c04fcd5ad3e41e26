import DeviceIdentity.Proofs.SecureService.Alike
import DeviceIdentity.Proofs.SubjectName

/-!
# Requests made side by side

The generation of a request looks at the service through two calls, at the buffer, and at nothing
else: the stages passed are only ever added to.  So it takes services that are alike to the same
end, with one of its own causes if it fails.

* `Build.Related` — two states in which requests are made; the stages passed need not be the same.
* `relates_build_or_abandon` — the stages of a request, and giving up.
* `matches_generateInto`, `matches_generate` — requests made of services that are alike, whatever
  was in the buffer before.
-/

namespace DeviceIdentity

open DeviceIdentity.Action (Relates Shared)

namespace CertRequest

/-- Two states in which requests are made, with related services, the same buffer, and related
stages passed. -/
structure Build.Related {σ τ : Type} (R : σ → τ → Prop) (P : List Stage → List Stage → Prop)
    (b : Build σ) (b' : Build τ) : Prop where
  service : R b.service b'.service
  tail : b.tail = b'.tail
  passed : P b.passed b'.passed

section Related

variable {σ τ : Type} {R : σ → τ → Prop} {P : List Stage → List Stage → Prop}
  {seen : LogRecord → Bool} {service : SecureService σ} {other : SecureService τ}

lemma relates_call {α : Type} {E : Failure → Failure → Prop} {step : Action σ α}
    {step' : Action τ α} (h : step.Relates R seen Eq E step') :
    (Build.call step).Relates (Build.Related R P) seen Eq E (Build.call step') :=
  Action.relates_within h (fun hrel => hrel.service) fun hrel hstate =>
    ⟨hstate, hrel.tail, hrel.passed⟩

/-- Writing fails with the causes of writing, on both sides with the same one. -/
lemma relates_write {α : Type} (step : Der.Write α) :
    (Build.write step).Relates (Build.Related R P) seen Eq (Shared Failure.requestCauses)
      (Build.write step) := by
  refine Action.relates_within (R := Eq) ?_ (fun hrel => hrel.tail) fun hrel hstate =>
    ⟨hrel.service, hstate, hrel.passed⟩
  refine Action.relates_mapFailure (Action.relates_self (E := Eq) fun _ => rfl) fun {e e'} heq =>
    ⟨congrArg Failure.ofEncoding heq, ?_⟩
  exact (show [.encodingFailed, .bufferTooSmall] ⊆ Failure.requestCauses by decide)
    e.ofEncoding_mem

/-! ## The stages of a request -/

section Stages

-- passing the same stage leaves the stages passed related
variable (hpassed : ∀ stage {passed passed'}, P passed passed' →
  P (stage :: passed) (stage :: passed'))
include hpassed

lemma relates_pass {E : Failure → Failure → Prop} (stage : Stage) :
    (Build.pass stage).Relates (Build.Related R P) seen Eq E (Build.pass stage) :=
  Action.relates_modify fun hrel => ⟨hrel.service, hrel.tail, hpassed stage hrel.passed⟩

lemma relates_subject (organization uuid : String) (id : KeyId) :
    (subject organization uuid id).Relates (Build.Related R P) seen Eq
      (Shared Failure.requestCauses) (subject organization uuid id) := by
  refine Action.relates_bind_eq (Action.relates_ofExcept (KeyTable.ends_slot (by decide) id))
    fun slot => ?_
  refine Action.relates_bind_eq (Action.relates_ofExcept ?_) fun name => ?_
  · refine Action.ends_self fun {e} herror => ⟨rfl, ?_⟩
    rw [SubjectName.eq_of_parse_eq_error herror]
    decide
  refine Action.relates_bind_eq (Action.relates_log _ _ _) fun _ => ?_
  exact Action.relates_bind_eq (relates_pass hpassed _) fun _ => Action.relates_pure rfl

lemma relates_body (h : service.Alike R seen other) (table : KeyTable) (id : KeyId)
    (name : SubjectName) :
    (body service table id name).Relates (Build.Related R P) seen Eq
      (Shared Failure.requestCauses) (body other table id name) := by
  refine Action.relates_bind_eq (relates_call ?_) fun publicKey => ?_
  · refine Action.relates_mapFailure (KeyTable.relates_publicKey h table id)
      fun {e e'} hshared => ?_
    obtain ⟨rfl, -⟩ := hshared
    exact ⟨rfl, by cases e <;> simp [ofMissingKey, Failure.requestCauses]⟩
  refine Action.relates_bind_eq (relates_write _) fun octets => ?_
  exact Action.relates_bind_eq (relates_pass hpassed _) fun _ => Action.relates_pure rfl

lemma relates_signature (h : service.Alike R seen other) (id : KeyId) (message : Bytes) :
    (signature service id message).Relates (Build.Related R P) seen Eq
      (Shared Failure.requestCauses) (signature other id message) := by
  refine Action.relates_bind_eq (relates_call ?_) fun raw => ?_
  · refine Action.relates_mapFailure (h.sign id message) fun {e e'} hseen =>
      ⟨hseen.ofSigning, ?_⟩
    exact (show [.signingFailed, .transportUnavailable, .bufferTooSmall] ⊆
      Failure.requestCauses by decide) e.ofSigning_mem
  exact Action.relates_bind_eq (relates_pass hpassed _) fun _ => Action.relates_pure rfl

lemma relates_assemble (message raw : Bytes) :
    (assemble message raw).Relates (Build.Related R P) seen Eq (Shared Failure.requestCauses)
      (assemble message raw) := by
  refine Action.relates_bind_eq (relates_write _) fun _ => ?_
  refine Action.relates_bind_eq (relates_write _) fun length => ?_
  exact Action.relates_bind_eq (relates_pass hpassed _) fun _ => Action.relates_pure rfl

lemma relates_build (h : service.Alike R seen other) (table : KeyTable)
    (organization uuid : String) (id : KeyId) :
    (build service table organization uuid id).Relates (Build.Related R P) seen Eq
      (Shared Failure.requestCauses) (build other table organization uuid id) := by
  refine Action.relates_bind_eq (relates_subject hpassed _ _ _) fun name => ?_
  refine Action.relates_bind_eq (relates_body hpassed h _ _ _) fun message => ?_
  refine Action.relates_bind_eq (relates_signature hpassed h _ _) fun raw => ?_
  exact relates_assemble hpassed message raw

/-- Giving up passes the cause on, after it has been reported and recorded. -/
lemma relates_build_or_abandon (h : service.Alike R seen other) (table : KeyTable)
    (organization uuid : String) (id : KeyId) :
    (do
      match ← (build service table organization uuid id).attempt with
      | .ok length => return length
      | .error cause => abandon cause : Action (Build σ) Nat).Relates (Build.Related R P) seen Eq
        (Shared Failure.requestCauses)
    (do
      match ← (build other table organization uuid id).attempt with
      | .ok length => return length
      | .error cause => abandon cause) := by
  refine Action.relates_bind
    (Action.relates_attempt (relates_build hpassed h table organization uuid id))
    fun {result result'} hends => ?_
  cases hends with
  | ok hlength => exact Action.relates_pure hlength
  | @error cause cause' hshared =>
    obtain ⟨rfl, hmem⟩ := hshared
    refine Action.relates_bind_eq (Action.relates_log _ _ _) fun _ => ?_
    exact Action.relates_bind_eq (relates_pass hpassed _) fun _ =>
      Action.relates_fail ⟨rfl, hmem⟩

/-- A request is made in a buffer of its own, so what was in the buffer before plays no part. -/
lemma matches_generateInto (h : service.Alike R seen other) (table : KeyTable)
    (organization : String) (id : KeyId) (uuid : String) (buffer : Bytes) {b : Build σ}
    {b' : Build τ} (hservice : R b.service b'.service) (hstages : P b.passed b'.passed) :
    Action.Matches (Build.Related R P) seen Eq (Shared Failure.requestCauses)
      ((generateInto service table organization id uuid buffer).run b)
      ((generateInto other table organization id uuid buffer).run b') :=
  relates_build_or_abandon hpassed h table organization uuid id
    { b with tail := Tail.ofBuffer buffer, passed := .start :: b.passed }
    { b' with tail := Tail.ofBuffer buffer, passed := .start :: b'.passed }
    ⟨hservice, rfl, hpassed .start hstages⟩

lemma relates_render (format : RequestFormat) (der : Bytes) :
    (render format der).Relates (Build.Related R P) seen Eq (Shared Failure.requestCauses)
      (render format der) := by
  cases format with
  | der => exact Action.relates_pure rfl
  | pem | json =>
    exact Action.relates_bind_eq (relates_pass hpassed _) fun _ => Action.relates_pure rfl

lemma matches_generate (h : service.Alike R seen other) (table : KeyTable)
    (organization : String) (size : Nat) (id : KeyId) (uuid : String) (format : RequestFormat)
    {b : Build σ} {b' : Build τ} (hservice : R b.service b'.service)
    (hstages : P b.passed b'.passed) :
    Action.Matches (Build.Related R P) seen Eq (Shared Failure.requestCauses)
      ((generate service table organization size id uuid format).run b)
      ((generate other table organization size id uuid format).run b') := by
  refine Action.Matches.bind (matches_generateInto hpassed h table organization id uuid _ hservice
    hstages) fun _ => ?_
  refine Action.relates_bind Action.relates_get fun {b b'} hrel => ?_
  rw [hrel.tail]
  refine Action.relates_bind_eq (relates_render hpassed format _) fun out => ?_
  exact Action.relates_bind_eq (relates_pass hpassed _) fun _ => Action.relates_pure rfl

end Stages

/-! ## Requests -/

lemma relates_generateInto (h : service.Alike R seen other) (table : KeyTable)
    (organization : String) (id : KeyId) (uuid : String) (buffer : Bytes) :
    (generateInto service table organization id uuid buffer).Relates (Build.Related R Eq) seen Eq
      (Shared Failure.requestCauses) (generateInto other table organization id uuid buffer) :=
  fun _ _ hrel => matches_generateInto (fun stage _ _ => congrArg (List.cons stage)) h table
    organization id uuid buffer hrel.service hrel.passed

lemma relates_generate (h : service.Alike R seen other) (table : KeyTable)
    (organization : String) (size : Nat) (id : KeyId) (uuid : String) (format : RequestFormat) :
    (generate service table organization size id uuid format).Relates (Build.Related R Eq) seen Eq
      (Shared Failure.requestCauses)
      (generate other table organization size id uuid format) :=
  fun _ _ hrel => matches_generate (fun stage _ _ => congrArg (List.cons stage)) h table
    organization size id uuid format hrel.service hrel.passed

end Related

end CertRequest

end DeviceIdentity

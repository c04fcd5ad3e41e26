import DeviceIdentity.Device
import DeviceIdentity.Proofs.Key.Table

/-!
# What requests and responses leave alone

Making a request changes the state of the secure service only through the operations of the service.
So whatever these operations keep, making a request keeps as well, on the part of the state that is
the service's.  A response of the certificate authority does not reach the service.

* `keeps_generate` — what making a request keeps, in any format.
* `keeps_apply` — a response gives no slot a key.
-/

namespace DeviceIdentity

open DeviceIdentity.Action (Keeps)

/-! ## Requests -/

section Service

variable {σ : Type} {R : σ → σ → Prop} [IsPreorder σ R] {service : SecureService σ}

namespace CertRequest

/-- The service's part of the state in which requests are made. -/
def OnService (R : σ → σ → Prop) (b b' : Build σ) : Prop := R b.service b'.service

instance : IsPreorder (Build σ) (OnService R) where
  refl b := refl_of R b.service
  trans _ _ _ h h' := trans_of R h h'

lemma keeps_pass (stage : Stage) : (Build.pass stage).Keeps (OnService R) :=
  Action.keeps_modify fun b => refl_of R b.service

omit [IsPreorder σ R] in
lemma keeps_call {α : Type} {step : Action σ α} (h : step.Keeps R) :
    (Build.call step).Keeps (OnService R) :=
  Action.keeps_within h fun _ _ hstep => hstep

lemma keeps_write {α : Type} (step : Der.Write α) : (Build.write step).Keeps (OnService R) :=
  fun b => refl_of R b.service

lemma keeps_subject (organization uuid : String) (id : KeyId) :
    (subject organization uuid id : Action (Build σ) _).Keeps (OnService R) := by
  refine Action.keeps_bind (Action.keeps_ofExcept _) fun slot => ?_
  refine Action.keeps_bind (Action.keeps_ofExcept _) fun name => ?_
  refine Action.keeps_bind (Action.keeps_log _ _ _) fun _ => ?_
  exact Action.keeps_bind (keeps_pass _) fun _ => Action.keeps_pure _

lemma keeps_body (hexport : ∀ id, (service.exportKey id).Keeps R) (table : KeyTable) (id : KeyId)
    (name : SubjectName) : (body service table id name).Keeps (OnService R) := by
  refine Action.keeps_bind (keeps_call ?_) fun publicKey => ?_
  · exact Action.keeps_mapFailure _ (KeyTable.keeps_publicKey hexport table id)
  refine Action.keeps_bind (keeps_write _) fun octets => ?_
  exact Action.keeps_bind (keeps_pass _) fun _ => Action.keeps_pure _

lemma keeps_signature (hsign : ∀ id message, (service.sign id message).Keeps R) (id : KeyId)
    (message : Bytes) : (signature service id message).Keeps (OnService R) := by
  refine Action.keeps_bind (keeps_call ?_) fun raw => ?_
  · exact Action.keeps_mapFailure _ (hsign id message)
  exact Action.keeps_bind (keeps_pass _) fun _ => Action.keeps_pure _

lemma keeps_assemble (message raw : Bytes) :
    (assemble message raw : Action (Build σ) Nat).Keeps (OnService R) := by
  refine Action.keeps_bind (keeps_write _) fun _ => ?_
  refine Action.keeps_bind (keeps_write _) fun length => ?_
  exact Action.keeps_bind (keeps_pass _) fun _ => Action.keeps_pure _

/-- The four stages ask the service for a public key and for a signature. -/
lemma keeps_build (hexport : ∀ id, (service.exportKey id).Keeps R)
    (hsign : ∀ id message, (service.sign id message).Keeps R) (table : KeyTable)
    (organization uuid : String) (id : KeyId) :
    (build service table organization uuid id).Keeps (OnService R) := by
  refine Action.keeps_bind (keeps_subject organization uuid id) fun name => ?_
  refine Action.keeps_bind (keeps_body hexport table id name) fun message => ?_
  refine Action.keeps_bind (keeps_signature hsign id message) fun raw => ?_
  exact keeps_assemble message raw

lemma keeps_generateInto (hexport : ∀ id, (service.exportKey id).Keeps R)
    (hsign : ∀ id message, (service.sign id message).Keeps R) (table : KeyTable)
    (organization : String) (id : KeyId) (uuid : String) (buffer : Bytes) :
    (generateInto service table organization id uuid buffer).Keeps (OnService R) := by
  refine Action.keeps_bind (Action.keeps_modify fun b => refl_of R b.service) fun _ => ?_
  refine Action.keeps_bind (Action.keeps_attempt
    (keeps_build hexport hsign table organization uuid id)) fun result => ?_
  cases result with
  | ok length => exact Action.keeps_pure _
  | error cause =>
    refine Action.keeps_bind (Action.keeps_log _ _ _) fun _ => ?_
    exact Action.keeps_bind (keeps_pass _) fun _ => Action.keeps_fail _

lemma keeps_generate (hexport : ∀ id, (service.exportKey id).Keeps R)
    (hsign : ∀ id message, (service.sign id message).Keeps R) (table : KeyTable)
    (organization : String) (size : Nat) (id : KeyId) (uuid : String) (format : RequestFormat) :
    (generate service table organization size id uuid format).Keeps (OnService R) := by
  refine Action.keeps_bind
    (keeps_generateInto hexport hsign table organization id uuid _) fun _ => ?_
  refine Action.keeps_bind Action.keeps_get fun b => ?_
  refine Action.keeps_bind ?_ fun out => ?_
  · cases format with
    | der => exact Action.keeps_pure _
    | pem | json => exact Action.keeps_bind (keeps_pass _) fun _ => Action.keeps_pure _
  · exact Action.keeps_bind (keeps_pass _) fun _ => Action.keeps_pure _

end CertRequest

end Service

/-! ## Responses -/

/-- The second component of a state. -/
def OnSnd {σ τ : Type} (R : τ → τ → Prop) (p p' : σ × τ) : Prop := R p.2 p'.2

instance {σ τ : Type} {R : τ → τ → Prop} [IsPreorder τ R] : IsPreorder (σ × τ) (OnSnd R) where
  refl p := refl_of R p.2
  trans _ _ _ h h' := trans_of R h h'

lemma CaExchange.keeps_apply (octets : Bytes) :
    (CaExchange.apply octets).Keeps (OnSnd KeyTable.NoNewKeys) := by
  refine Action.keeps_bind (Action.keeps_ofExcept _) fun response => ?_
  refine Action.keeps_bind (Action.keeps_log _ _ _) fun _ => ?_
  refine Action.keeps_bind (fun p => refl_of KeyTable.NoNewKeys p.2) fun _ => ?_
  refine Action.keeps_bind (Action.keeps_attempt (Action.keeps_within
    (KeyTable.keeps_recordCertificate _) fun _ _ hrecord => hrecord)) fun recorded => ?_
  cases recorded with
  | ok _ => exact Action.keeps_pure _
  | error failure => exact Action.keeps_log _ _ _

end DeviceIdentity

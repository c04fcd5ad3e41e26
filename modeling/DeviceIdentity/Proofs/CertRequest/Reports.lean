import DeviceIdentity.Proofs.CertRequest.Soundness
import DeviceIdentity.Proofs.Key.Reports
import DeviceIdentity.Proofs.SubjectName

/-!
# What making a request says

Making a request on the emulated partition reports the subject, then that the key may not sign if
that is so, and at last the failure, if there is one.  The public key and the signature are written
without a word, and the partition never refuses a body, because every body that is written is one
sequence.

* `preface` — the record of the subject; `abandonment` — the record of a failure.
* **`log_generate`** — a request reports this, in any of its forms.
-/

namespace DeviceIdentity

open DeviceIdentity.Action (Quiet Reports Returns)

namespace CertRequest

/-! ## Making a request -/

/-- The record of the subject, which is made once the subject is known to be valid. -/
def preface (organization uuid : String) (id : KeyId) : List LogRecord :=
  match KeyTable.slot id with
  | .ok slot =>
    match SubjectName.forDevice organization uuid slot.label with
    | .ok name => [⟨.info, logTarget,
        "generating CSR for '" ++ slot.label ++ "', subject " ++ name.text⟩]
    | .error _ => []
  | .error _ => []

/-- The record of a failure. -/
def abandonment (cause : Failure) : LogRecord :=
  ⟨.error, logTarget,
    "CSR generation failed: " ++ cause.label ++ " (" ++ toString cause.code ++ ")"⟩

/-- What is said while a request is made: that the key may not sign, when signing fails. -/
def objection (refusal : List LogRecord) (cause : Failure) : List LogRecord :=
  if cause = .signingFailed then refusal else []

lemma objection_congr {refusal : List LogRecord} {e e' : Failure}
    (h : e.label = e'.label) : objection refusal e = objection refusal e' := by
  simp only [objection, Failure.eq_signingFailed_iff, h]

lemma abandonment_congr {e e' : Failure} (h : e.label = e'.label) :
    abandonment e = abandonment e' := by
  rw [abandonment, abandonment, h, (Failure.label_eq_iff_code_eq e e').1 h]

section Stages

variable {σ : Type} {organization uuid : String} {id : KeyId} {refusal : List LogRecord}
  {b b' : Build σ}

lemma log_subject :
    ((subject organization uuid id : Action (Build σ) SubjectName).run b).log =
      preface organization uuid id := by
  unfold preface subject
  cases KeyTable.slot id with
  | error e => rfl
  | ok slot =>
    rw [Action.log_bind_of_returns (Action.returns_ofExcept.2 ⟨rfl, rfl⟩)]
    dsimp only
    cases SubjectName.forDevice organization uuid slot.label with
    | error e => rfl
    | ok name => rfl

lemma fails_subject {e : Failure} (h : (subject organization uuid id).Fails b e b') :
    e = .unknownKeyId ∨ e = .subjectNameInvalid := by
  rcases Action.fails_bind.1 h with h | ⟨slot, _, -, h⟩
  · exact .inl (KeyTable.eq_of_slot_eq_error h.1)
  rcases Action.fails_bind.1 h with h | ⟨name, _, -, h⟩
  · exact .inr (SubjectName.eq_of_parse_eq_error h.1)
  rcases Action.fails_bind.1 h with h | ⟨_, _, -, h⟩
  · exact (Action.fails_log.1 h).elim
  rcases Action.fails_bind.1 h with h | ⟨_, _, -, h⟩
  · exact (Action.fails_modify.1 h).elim
  · exact (Action.fails_pure.1 h).elim

/-- Writing never fails in a way of which something is said. -/
lemma reports_write {α : Type} {step : Der.Write α} (h : step.Quiet b.tail) :
    (Build.write step).Reports (objection refusal) b := by
  refine Action.reports_within (h.reports_mapFailure fun e => ?_)
  cases e <;> rfl

lemma reports_body {b : Build Partition} (table : KeyTable) (name : SubjectName) :
    (body Partition.service table id name).Reports (objection refusal) b := by
  refine Action.reports_bind ?_ fun _ => Action.reports_bind
    (reports_write ((composed_writeBody _ _).quiet _)) fun _ =>
      Action.reports_bind (Action.reports_modify _) fun _ => Action.reports_pure _
  refine Action.reports_within ((KeyTable.quiet_publicKey table id).reports_mapFailure fun e => ?_)
  cases e <;> rfl

lemma reports_signature {b : Build Partition} {message : Bytes} {n : Nat}
    (hbody : DerHeader.checkSequence message = .ok n) :
    (signature Partition.service id message).Reports (objection (b.service.refusal id)) b := by
  refine Action.reports_bind ?_ fun _ => Action.reports_bind (Action.reports_modify _) fun _ =>
    Action.reports_pure _
  exact Action.reports_within (Action.reports_mapFailure (Partition.reports_sign hbody rfl rfl))

lemma reports_assemble (message raw : Bytes) :
    (assemble message raw).Reports (objection refusal) b :=
  Action.reports_bind (reports_write (Action.reports_modify _)) fun _ =>
    Action.reports_bind (reports_write ((composed_writeSigned _ _).quiet _)) fun _ =>
    Action.reports_bind (Action.reports_modify _) fun _ => Action.reports_pure _

/-- The subject is reported, and after that at most that the key may not sign. -/
lemma log_build (table : KeyTable) (organization uuid : String) (id : KeyId)
    {b : Build Partition} (hempty : b.tail.written = []) :
    let outcome := (build Partition.service table organization uuid id).run b
    outcome.log = preface organization uuid id ++
      Action.reported (objection (b.service.refusal id)) outcome.result := by
  intro outcome
  rcases (subject organization uuid id).returns_or_fails b with
    ⟨name, hsubject⟩ | ⟨e, hsubject⟩
  · set b₁ := ((subject organization uuid id).run b).state
    obtain ⟨-, hservice, htail⟩ := returns_subject hsubject
    have hrest : (do
        let message ← body Partition.service table id name
        let raw ← signature Partition.service id message
        assemble message raw).Reports (objection (b.service.refusal id)) b₁ := by
      refine Action.reports_bind (reports_body table name) fun {message b₂} hbody => ?_
      obtain ⟨publicKey, octets, hexport, hoctets, -, hmessage⟩ := returns_body hbody
      obtain ⟨n, hsequence⟩ := checkSequence_of_body? hoctets
      rw [htail, hempty, List.append_nil] at hmessage
      rw [← hservice, (Partition.keeps_exportKey id).of_returns hexport]
      rw [hmessage] at hsequence
      exact Action.reports_bind (reports_signature hsequence) fun _ => reports_assemble _ _
    simp only [outcome, build]
    rw [Action.log_bind_of_returns hsubject, log_subject, hrest, Action.run_bind_of_ok hsubject.1]
  · simp only [outcome, build]
    rw [Action.log_bind_of_fails hsubject, log_subject, Action.run_bind_of_error hsubject.1]
    have hnothing : objection (b.service.refusal id) e = [] := by
      rcases fails_subject hsubject with rfl | rfl <;> rfl
    rw [Action.reported, hnothing, List.append_nil]

/-- With the buffer in place, a request is made or given up. -/
lemma run_generateInto_start (table : KeyTable) (organization uuid : String) (id : KeyId)
    (buffer : Bytes) (b : Build Partition) :
    (generateInto Partition.service table organization id uuid buffer).run b = (do
      match ← (build Partition.service table organization uuid id).attempt with
      | .ok length => return length
      | .error cause => abandon cause : Action (Build Partition) Nat).run
        { b with tail := Tail.ofBuffer buffer, passed := .start :: b.passed } := rfl

/-- A failure is reported at the end. -/
lemma log_generateInto (table : KeyTable) (organization uuid : String) (id : KeyId)
    (buffer : Bytes) (b : Build Partition) :
    let outcome := (generateInto Partition.service table organization id uuid buffer).run b
    outcome.log = preface organization uuid id ++
      Action.reported (fun cause => objection (b.service.refusal id) cause ++ [abandonment cause])
        outcome.result := by
  intro outcome
  set b₀ : Build Partition := { b with tail := Tail.ofBuffer buffer, passed := .start :: b.passed }
  have hlog := log_build table organization uuid id (b := b₀) rfl
  simp only [outcome, run_generateInto_start]
  rcases (build Partition.service table organization uuid id).returns_or_fails b₀ with
    ⟨length, hbuild⟩ | ⟨cause, hbuild⟩
  · have hattempt := Action.returns_attempt.2 ⟨hbuild.1, hbuild.2⟩
    rw [Action.log_bind_of_returns hattempt, Action.run_bind_of_ok hattempt.1, Action.run_attempt,
      hlog, hbuild.1]
    exact List.append_nil _
  · have hattempt := Action.returns_attempt.2 ⟨hbuild.1, hbuild.2⟩
    rw [Action.log_bind_of_returns hattempt, Action.run_bind_of_ok hattempt.1, Action.run_attempt,
      hlog, hbuild.1]
    exact List.append_assoc _ _ _

/-- **What a request says.**  Its form makes no difference. -/
lemma log_generate (table : KeyTable) (organization uuid : String) (id : KeyId) (size : Nat)
    (format : RequestFormat) (b : Build Partition) :
    let outcome :=
      (generate Partition.service table organization size id uuid format).run b
    outcome.log = preface organization uuid id ++
      Action.reported (fun cause => objection (b.service.refusal id) cause ++ [abandonment cause])
        outcome.result := by
  intro outcome
  have hlog := log_generateInto table organization uuid id (List.replicate size 0) b
  simp only [outcome, generate]
  rcases (generateInto Partition.service table organization id uuid
    (List.replicate size 0)).returns_or_fails b with ⟨length, hmade⟩ | ⟨cause, hmade⟩
  · rw [Action.log_bind_of_returns hmade, Action.run_bind_of_ok hmade.1, hlog, hmade.1]
    cases format <;> exact List.append_nil _
  · rw [Action.log_bind_of_fails hmade, Action.run_bind_of_error hmade.1, hlog, hmade.1]
    rfl

end Stages

end CertRequest

end DeviceIdentity

import DeviceIdentity.Proofs.CertRequest.Related
import DeviceIdentity.Proofs.Device.Frame
import DeviceIdentity.Proofs.SecureService.Inquiries
import DeviceIdentity.Proofs.SecureService.Sanitised

/-!
# The stage tells the outcome

A builder of certificate requests keeps the stages that it passes, and shows the latest one.  A call
starts anew and passes its stages in their order, so what the builder shows afterwards is how this
call ended, whatever was done with it before.

* `Climbs` — a step passes some stages in their order, or as many as it comes to;
  `climbs_build` — the steps of a request.
* `prepare`, `complete` — the two halves of making a request; only the second one asks for a
  signature, once (`signatures_prepare`, `signatures_complete`).
* `Request` — a call of the builder; `Request.Course` — the stages of a call with a given result.
* `run_of_used` — a builder that has been used does what a new one does.
* `History` — calls in any number and order; `tells_next` — what a call leaves to be told, and
  `tells_after` — after any of them, the stage tells of the last one.
* **`stage_tells_outcome`** — all of this together.
-/

namespace DeviceIdentity

open DeviceIdentity.Action (Fails Keeps Returns)

/-- The service, but it signs nothing. -/
def SecureService.refusing {σ : Type} (service : SecureService σ) (cause : Failure) :
    SecureService σ :=
  { service with sign := fun _ _ => Action.fail cause }

namespace CertRequest

/-! ## Passing stages -/

section Climbs

variable {σ α β : Type}

/-- The same stages have been passed. -/
def SamePassed (b b' : Build σ) : Prop := b'.passed = b.passed

instance : IsPreorder (Build σ) SamePassed where
  refl _ := rfl
  trans _ _ _ h h' := h'.trans h

/-- The step passes the given stages in their order: all of them if it returns, and only so many
that one is left if it fails. -/
structure Climbs (stages : List Stage) (step : Action (Build σ) α) : Prop where
  returns : ∀ {b b' : Build σ} {a : α}, step.Returns b a b' →
    b'.passed = stages.reverse ++ b.passed
  fails : ∀ {b b' : Build σ} {e : Failure}, step.Fails b e b' →
    ∃ far < stages.length, b'.passed = (stages.take far).reverse ++ b.passed

lemma climbs_pass (stage : Stage) (a : α) :
    Climbs [stage] (do Build.pass stage; return a : Action (Build σ) α) where
  returns h := by
    obtain ⟨_, _, hpass, h⟩ := Action.returns_bind.1 h
    obtain rfl := Action.returns_modify.1 hpass
    obtain ⟨-, rfl⟩ := Action.returns_pure.1 h
    rfl
  fails h := by
    rcases Action.fails_bind.1 h with h | ⟨_, _, -, h⟩
    · exact (Action.fails_modify.1 h).elim
    · exact (Action.fails_pure.1 h).elim

lemma Climbs.bind {stages stages' : List Stage} {step : Action (Build σ) α}
    {next : α → Action (Build σ) β} (h : Climbs stages step)
    (hnext : ∀ a, Climbs stages' (next a)) : Climbs (stages ++ stages') (step >>= next) where
  returns hreturns := by
    obtain ⟨a, _, hfirst, hsecond⟩ := Action.returns_bind.1 hreturns
    rw [(hnext a).returns hsecond, h.returns hfirst, List.reverse_append, List.append_assoc]
  fails hfails := by
    rcases Action.fails_bind.1 hfails with hfirst | ⟨a, _, hfirst, hsecond⟩
    · obtain ⟨far, hfar, hpassed⟩ := h.fails hfirst
      refine ⟨far, ?_, ?_⟩
      · rw [List.length_append]
        exact Nat.lt_add_right _ hfar
      · rw [List.take_append_of_le_length (Nat.le_of_lt hfar), hpassed]
    · obtain ⟨far, hfar, hpassed⟩ := (hnext a).fails hsecond
      refine ⟨stages.length + far, ?_, ?_⟩
      · rw [List.length_append]
        exact Nat.add_lt_add_left hfar _
      · rw [List.take_length_add_append, hpassed, h.returns hfirst, List.reverse_append,
          List.append_assoc]

/-- What passes no stage may stand before what passes some. -/
lemma Climbs.after {stages : List Stage} (hstages : stages ≠ []) {step : Action (Build σ) α}
    {next : α → Action (Build σ) β} (h : step.Keeps SamePassed)
    (hnext : ∀ a, Climbs stages (next a)) : Climbs stages (step >>= next) where
  returns hreturns := by
    obtain ⟨a, b', hfirst, hsecond⟩ := Action.returns_bind.1 hreturns
    rw [(hnext a).returns hsecond, h.of_returns hfirst]
  fails hfails := by
    rcases Action.fails_bind.1 hfails with hfirst | ⟨a, _, hfirst, hsecond⟩
    · refine ⟨0, List.length_pos_iff.2 hstages, ?_⟩
      rw [← hfirst.2]
      exact h _
    · obtain ⟨far, hfar, hpassed⟩ := (hnext a).fails hsecond
      exact ⟨far, hfar, by rw [hpassed, h.of_returns hfirst]⟩

end Climbs

/-! ## The stages of a request -/

section Build

variable {σ : Type}

lemma samePassed_call {α : Type} (step : Action σ α) : (Build.call step).Keeps SamePassed :=
  fun _ => rfl

lemma samePassed_write {α : Type} (step : Der.Write α) :
    (Build.write step : Action (Build σ) α).Keeps SamePassed :=
  fun _ => rfl

/-- The first half of making a request: all that comes before the signature. -/
def prepare (service : SecureService σ) (table : KeyTable) (organization uuid : String)
    (id : KeyId) : Action (Build σ) Bytes := do
  let subject ← subject organization uuid id
  body service table id subject

/-- The second half: the signature, and all that comes after it. -/
def complete (service : SecureService σ) (id : KeyId) (body : Bytes) : Action (Build σ) Nat := do
  let signature ← signature service id body
  assemble body signature

/-- The stages after the start that a request passes until it is complete. -/
def milestones : List Stage := [.subjectBuilt, .bodyEncoded, .signed, .assembled]

variable {service : SecureService σ} {table : KeyTable} {organization uuid : String} {id : KeyId}

lemma build_eq : build service table organization uuid id =
    prepare service table organization uuid id >>= complete service id :=
  (Action.bind_assoc _ _ _).symm

lemma climbs_subject :
    Climbs [.subjectBuilt] (subject organization uuid id : Action (Build σ) SubjectName) := by
  refine Climbs.after (List.cons_ne_nil _ _) (Action.keeps_ofExcept _) fun slot => ?_
  refine Climbs.after (List.cons_ne_nil _ _) (Action.keeps_ofExcept _) fun name => ?_
  refine Climbs.after (List.cons_ne_nil _ _) (Action.keeps_log _ _ _) fun _ => ?_
  exact climbs_pass _ _

lemma climbs_body (name : SubjectName) : Climbs [.bodyEncoded] (body service table id name) := by
  refine Climbs.after (List.cons_ne_nil _ _) (samePassed_call _) fun publicKey => ?_
  refine Climbs.after (List.cons_ne_nil _ _) (samePassed_write _) fun octets => ?_
  exact climbs_pass _ _

lemma climbs_signature (message : Bytes) : Climbs [.signed] (signature service id message) :=
  Climbs.after (List.cons_ne_nil _ _) (samePassed_call _) fun _ => climbs_pass _ _

lemma climbs_assemble (message raw : Bytes) :
    Climbs [.assembled] (assemble message raw : Action (Build σ) Nat) := by
  refine Climbs.after (List.cons_ne_nil _ _) (samePassed_write _) fun _ => ?_
  refine Climbs.after (List.cons_ne_nil _ _) (samePassed_write _) fun length => ?_
  exact climbs_pass _ _

lemma climbs_prepare :
    Climbs [.subjectBuilt, .bodyEncoded] (prepare service table organization uuid id) :=
  climbs_subject.bind climbs_body

lemma climbs_complete (message : Bytes) :
    Climbs [.signed, .assembled] (complete service id message) :=
  (climbs_signature message).bind (climbs_assemble message)

lemma climbs_build : Climbs milestones (build service table organization uuid id) := by
  rw [build_eq]
  exact climbs_prepare.bind climbs_complete

/-! ## What the service is asked -/

/-- The questions for a signature among those noted. -/
def signatures (noted : List Inquiry) : List Inquiry :=
  noted.filter fun inquiry => inquiry.question.asksSignature

/-- No signature is asked for in between. -/
def SameSignatures (p p' : σ × List Inquiry) : Prop := signatures p'.2 = signatures p.2

instance : IsPreorder (σ × List Inquiry) SameSignatures where
  refl _ := rfl
  trans _ _ _ h h' := h'.trans h

/-- Before the signature, none is asked for. -/
lemma signatures_prepare (service : SecureService σ) (table : KeyTable)
    (organization uuid : String) (id : KeyId) (b : Build (σ × List Inquiry)) :
    signatures ((prepare service.noting table organization uuid id).run b).state.service.2 =
      signatures b.service.2 := by
  have hexport : ∀ id, (service.noting.exportKey id).Keeps SameSignatures := by
    rintro id ⟨s, noted⟩
    exact (List.filter_append _ _).trans (List.append_nil _)
  have hprepare : (prepare service.noting table organization uuid id).Keeps
      (OnService SameSignatures) :=
    Action.keeps_bind (keeps_subject organization uuid id) fun name =>
      keeps_body hexport table id name
  exact hprepare b

/-- Then one is asked for, once. -/
lemma signatures_complete (service : SecureService σ) (id : KeyId) (message : Bytes)
    (b : Build (σ × List Inquiry)) :
    ∃ answer, signatures ((complete service.noting id message).run b).state.service.2 =
      signatures b.service.2 ++ [⟨.sign id message, answer⟩] := by
  obtain ⟨⟨s, noted⟩, tail, passed⟩ := b
  have hrest := Action.rel_after (R := OnService SameSignatures)
    (fun raw => keeps_assemble message raw) (signature service.noting id message)
    ⟨(s, noted), tail, passed⟩
  have hpass : ∀ raw : Bytes, (do Build.pass .signed; return raw :
      Action (Build (σ × List Inquiry)) Bytes).Keeps (OnService SameSignatures) :=
    fun raw => Action.keeps_bind (keeps_pass _) fun _ => Action.keeps_pure _
  have hsigned := Action.rel_after hpass
    (Build.call ((service.noting.sign id message).mapFailure Failure.ofSigning))
    ⟨(s, noted), tail, passed⟩
  refine ⟨((service.sign id message).run s).result, ?_⟩
  exact hrest.trans (hsigned.trans (List.filter_append _ _))

/-- A service that refuses to sign is asked after the first half, and nothing comes after it. -/
lemma fails_complete_refusing (message : Bytes) (cause : Failure) (b : Build σ) :
    (complete (service.refusing cause) id message).Fails b cause.ofSigning b :=
  Action.fails_bind.2 (.inl (Action.fails_bind.2 (.inl ⟨rfl, rfl⟩)))

/-! ## Making a request -/

/-- The state in which the making of a request starts. -/
def started (b : Build σ) (buffer : Bytes) : Build σ :=
  { b with tail := Tail.ofBuffer buffer, passed := .start :: b.passed }

@[simp] lemma passed_started (b : Build σ) (buffer : Bytes) :
    (started b buffer).passed = .start :: b.passed := rfl

lemma returns_generateInto {buffer : Bytes} {b b' : Build σ} {n : Nat}
    (h : (build service table organization uuid id).Returns (started b buffer) n b') :
    (generateInto service table organization id uuid buffer).Returns b n b' := by
  refine Action.returns_bind.2 ⟨(), started b buffer, Action.returns_modify.2 rfl, ?_⟩
  refine Action.returns_bind.2 ⟨.ok n, b', Action.returns_attempt.2 h, ?_⟩
  exact Action.returns_pure.2 ⟨rfl, rfl⟩

/-- A failure is the last stage passed. -/
lemma fails_generateInto {buffer : Bytes} {b b' : Build σ} {e : Failure}
    (h : (build service table organization uuid id).Fails (started b buffer) e b') :
    (generateInto service table organization id uuid buffer).Fails b e
      { b' with passed := .failed e :: b'.passed } := by
  refine Action.fails_bind.2 (.inr ⟨(), started b buffer, Action.returns_modify.2 rfl, ?_⟩)
  refine Action.fails_bind.2 (.inr ⟨.error e, b', Action.returns_attempt.2 h, ?_⟩)
  refine Action.fails_bind.2 (.inr ⟨(), b', Action.returns_log.2 rfl, ?_⟩)
  refine Action.fails_bind.2 (.inr ⟨(), _, Action.returns_modify.2 rfl, ?_⟩)
  exact Action.fails_fail.2 ⟨rfl, rfl⟩

end Build

/-! ## Calls -/

/-- Where a request is wanted: in a buffer of the caller, or in a form of its own. -/
inductive Target where
  | buffer (octets : Bytes)
  | format (format : RequestFormat)

namespace Target

variable {σ : Type}

/-- What a call returns: the length of the request in the buffer, or its octets. -/
def Value : Target → Type
  | buffer _ => Nat
  | format _ => Bytes

/-- The stage in which a call that returns leaves the builder. -/
def last : Target → Stage
  | buffer _ => .assembled
  | format _ => .done

/-- The stages that a call passes after the request is complete. -/
def finishing : Target → List Stage
  | buffer _ => []
  | format .der => [.done]
  | format .pem | format .json => [.armored, .done]

/-- The buffer that the request is made in. -/
def space (size : Nat) : Target → Bytes
  | buffer octets => octets
  | format _ => List.replicate size 0

/-- What is done with a complete request. -/
def finish : (target : Target) → Nat → Action (Build σ) target.Value
  | buffer _, length => pure length
  | format f, _ => do
    let der := (← Action.get).tail.written
    let out ← render f der
    Build.pass .done
    return out

/-- That cannot fail, and does nothing to the service. -/
lemma returns_finish (target : Target) (length : Nat) (b : Build σ) :
    ∃ value tail, (target.finish length).Returns b value
      ⟨b.service, tail, target.finishing.reverse ++ b.passed⟩ := by
  rcases target with octets | form
  · exact ⟨length, b.tail, rfl, rfl⟩
  · cases form <;> exact ⟨_, b.tail, rfl, rfl⟩

end Target

/-- A call of the builder, with the table that it finds. -/
structure Request where
  /-- The key table. -/
  table : KeyTable
  /-- The key that the request is for. -/
  id : KeyId
  /-- The common name of its subject. -/
  uuid : String
  /-- Where it is wanted. -/
  target : Target

namespace Request

variable {σ : Type}

/-- Carries out a call. -/
def run (service : SecureService σ) (organization : String) (size : Nat) :
    (r : Request) → Action (Build σ) r.target.Value
  | ⟨table, id, uuid, .buffer octets⟩ =>
    generateInto service table organization id uuid octets
  | ⟨table, id, uuid, .format form⟩ =>
    generate service table organization size id uuid form

lemma run_eq (service : SecureService σ) (organization : String) (size : Nat) (r : Request) :
    r.run service organization size =
      generateInto service r.table organization r.id r.uuid (r.target.space size) >>=
        r.target.finish := by
  obtain ⟨table, id, uuid, octets | form⟩ := r
  · exact (Action.bind_pure _).symm
  · rfl

variable {service : SecureService σ} {organization : String} {size : Nat} {r : Request}
  {b b₁ : Build σ}

lemma returns_run {n : Nat}
    (h : (build service r.table organization r.uuid r.id).Returns
      (started b (r.target.space size)) n b₁) :
    ∃ value tail, (r.run service organization size).Returns b value
      ⟨b₁.service, tail, r.target.finishing.reverse ++ b₁.passed⟩ := by
  obtain ⟨value, tail, hfinish⟩ := r.target.returns_finish n b₁
  rw [run_eq]
  exact ⟨value, tail, Action.returns_bind.2 ⟨n, b₁, returns_generateInto h, hfinish⟩⟩

lemma fails_run {e : Failure}
    (h : (build service r.table organization r.uuid r.id).Fails
      (started b (r.target.space size)) e b₁) :
    (r.run service organization size).Fails b e
      { b₁ with passed := .failed e :: b₁.passed } := by
  rw [run_eq]
  exact Action.fails_bind.2 (.inl (fails_generateInto h))

/-! ## The course of a call -/

/-- The stages of a call with a given result: all of them, or those up to a milestone that is not
reached, and then the failure. -/
inductive Course (target : Target) : Except Failure target.Value → List Stage → Prop
  | made (value : target.Value) :
    Course target (.ok value) (.start :: milestones ++ target.finishing)
  | failed (e : Failure) {far : Nat} (h : far < milestones.length) :
    Course target (.error e) (.start :: milestones.take far ++ [.failed e])

lemma course_run (service : SecureService σ) (organization : String) (size : Nat) (r : Request)
    (b : Build σ) :
    let outcome := (r.run service organization size).run b
    ∃ stages, Course r.target outcome.result stages ∧
      outcome.state.passed = stages.reverse ++ b.passed := by
  intro outcome
  rcases Action.returns_or_fails (build service r.table organization r.uuid r.id)
    (started b (r.target.space size)) with ⟨n, h⟩ | ⟨e, h⟩
  · have hpassed := climbs_build.returns h
    obtain ⟨value, tail, hresult, hstate⟩ := returns_run h
    refine ⟨_, hresult ▸ Course.made value, ?_⟩
    simp only [outcome, hstate]
    simp [hpassed]
  · obtain ⟨far, hfar, hpassed⟩ := climbs_build.fails h
    obtain ⟨hresult, hstate⟩ := fails_run h
    refine ⟨_, hresult ▸ Course.failed e hfar, ?_⟩
    simp only [outcome, hstate]
    simp [hpassed]

/-- A call looks at the state of the service, and at nothing that was done with the builder. -/
lemma matches_run {τ : Type} {R : σ → τ → Prop} {P : List Stage → List Stage → Prop}
    {seen : LogRecord → Bool} {other : SecureService τ} {c : Build τ}
    (hpassed : ∀ stage {passed passed'}, P passed passed' → P (stage :: passed) (stage :: passed'))
    (h : service.Alike R seen other) (organization : String) (size : Nat) (r : Request)
    (hservice : R b.service c.service) (hstages : P b.passed c.passed) :
    Action.Matches (Build.Related R P) seen Eq (Action.Shared Failure.requestCauses)
      ((r.run service organization size).run b) ((r.run other organization size).run c) := by
  obtain ⟨table, id, uuid, octets | form⟩ := r
  · exact matches_generateInto hpassed h table organization id uuid octets hservice hstages
  · exact matches_generate hpassed h table organization size id uuid form hservice hstages

/-- A builder that has been used does what a new one does. -/
lemma run_of_used (service : SecureService σ) (organization : String) (size : Nat) (r : Request)
    (s : σ) (tail : Tail) (passed : List Stage) :
    let outcome := (r.run service organization size).run { service := s }
    (r.run service organization size).run ⟨s, tail, passed⟩ =
      ⟨outcome.result, { outcome.state with passed := outcome.state.passed ++ passed },
        outcome.log⟩ := by
  intro outcome
  have hmatches := matches_run (P := fun new used => used = new ++ passed)
    (b := { service := s }) (c := ⟨s, tail, passed⟩)
    (fun stage _ _ => congrArg (List.cons stage)) (service.alike_self fun _ => true) organization
    size r rfl rfl
  obtain ⟨hresult, ⟨hservice, htail, hpassed⟩, hlog⟩ := hmatches
  have hall : ∀ records : List LogRecord, records.filter (fun _ => true) = records :=
    fun _ => List.filter_eq_self.2 fun _ _ => rfl
  rw [hall, hall] at hlog
  generalize (r.run service organization size).run ⟨s, tail, passed⟩ = used at *
  obtain ⟨result, ⟨s', tail', passed'⟩, log⟩ := used
  rw [Outcome.mk.injEq, Build.mk.injEq]
  exact ⟨(hresult.eq fun hshared => hshared.1).symm, ⟨hservice.symm, htail.symm, hpassed⟩,
    hlog.symm⟩

/-! ## The signature -/

section Prepared

/-- Without a body, the call ends before the signature. -/
lemma fails_run_of_prepare {e : Failure}
    (h : (prepare service r.table organization r.uuid r.id).Fails
      (started b (r.target.space size)) e b₁) :
    (r.run service organization size).Fails b e
      { b₁ with passed := .failed e :: b₁.passed } := by
  refine fails_run ?_
  rw [build_eq]
  exact Action.fails_bind.2 (.inl h)

variable {message : Bytes}
  (h : (prepare service r.table organization r.uuid r.id).Returns
    (started b (r.target.space size)) message b₁)
include h

/-- With a body, the rest of the call is the second half, as far as the service goes. -/
lemma state_run_of_prepare :
    let reached := ((r.run service organization size).run b).state
    reached.service = ((complete service r.id message).run b₁).state.service ∧
      ∃ more, reached.passed = more ++ b₁.passed := by
  rcases Action.returns_or_fails (complete service r.id message) b₁ with ⟨n, hlast⟩ | ⟨e, hlast⟩
  · have hbuild : (build service r.table organization r.uuid r.id).Returns
        (started b (r.target.space size)) n ((complete service r.id message).run b₁).state := by
      rw [build_eq]
      exact Action.returns_bind.2 ⟨message, b₁, h, hlast⟩
    obtain ⟨value, tail, -, hstate⟩ := returns_run hbuild
    rw [hstate, (climbs_complete message).returns hlast]
    exact ⟨rfl, _, (List.append_assoc _ _ _).symm⟩
  · have hbuild : (build service r.table organization r.uuid r.id).Fails
        (started b (r.target.space size)) e ((complete service r.id message).run b₁).state := by
      rw [build_eq]
      exact Action.fails_bind.2 (.inr ⟨message, b₁, h, hlast⟩)
    obtain ⟨far, -, hpassed⟩ := (climbs_complete message).fails hlast
    rw [(fails_run hbuild).2, hpassed]
    exact ⟨rfl, _ :: _, rfl⟩

/-- If the service refuses to sign, that is where the call ends. -/
lemma fails_run_refusing (cause : Failure) :
    (r.run (service.refusing cause) organization size).Fails b cause.ofSigning
      { b₁ with passed := .failed cause.ofSigning :: b₁.passed } := by
  refine fails_run ?_
  rw [build_eq]
  exact Action.fails_bind.2 (.inr ⟨message, b₁, h, fails_complete_refusing message cause b₁⟩)

end Prepared

section Fresh

-- a builder that nothing has been done with
variable (hfresh : b.passed = [])
include hfresh

lemma not_mem_of_fails_prepare {e : Failure}
    (h : (prepare service r.table organization r.uuid r.id).Fails
      (started b (r.target.space size)) e b₁) :
    .bodyEncoded ∉ ({ b₁ with passed := .failed e :: b₁.passed } : Build σ).passed := by
  obtain ⟨far, hfar, hpassed⟩ := climbs_prepare.fails h
  rw [passed_started, hfresh] at hpassed
  rw [hpassed]
  obtain rfl | rfl : far = 0 ∨ far = 1 := by
    simp only [List.length_cons, List.length_nil] at hfar
    omega
  · simp
  · simp

lemma passed_of_returns_prepare {message : Bytes}
    (h : (prepare service r.table organization r.uuid r.id).Returns
      (started b (r.target.space size)) message b₁) :
    b₁.passed = [.bodyEncoded, .subjectBuilt, .start] := by
  rw [climbs_prepare.returns h, passed_started, hfresh]
  rfl

/-- A refusal to sign makes a difference to just those calls that come to encode the body. -/
lemma run_refusing (service : SecureService σ) (organization : String) (size : Nat) (r : Request) :
    let outcome := (r.run service organization size).run b
    (.bodyEncoded ∉ outcome.state.passed ∧ ∀ cause,
      let refused := (r.run (service.refusing cause) organization size).run b
      refused.result = outcome.result ∧ refused.state = outcome.state) ∨
    (.bodyEncoded ∈ outcome.state.passed ∧ ∀ cause,
      let refused := (r.run (service.refusing cause) organization size).run b
      refused.result = .error cause.ofSigning ∧ refused.state.passed.reverse =
        [.start, .subjectBuilt, .bodyEncoded, .failed cause.ofSigning]) := by
  intro outcome
  rcases Action.returns_or_fails (prepare service r.table organization r.uuid r.id)
    (started b (r.target.space size)) with ⟨message, h⟩ | ⟨e, h⟩
  · obtain ⟨-, more, hpassed⟩ := state_run_of_prepare h
    have hreached := passed_of_returns_prepare hfresh h
    refine .inr ⟨?_, fun cause => ?_⟩
    · rw [hpassed, hreached]
      exact List.mem_append_right _ List.mem_cons_self
    · obtain ⟨hresult, hstate⟩ := fails_run_refusing h cause
      refine ⟨hresult, ?_⟩
      rw [hstate, hreached]
      rfl
  · obtain ⟨hresult, hstate⟩ := fails_run_of_prepare h
    refine .inl ⟨?_, fun cause => ?_⟩
    · rw [hstate]
      exact not_mem_of_fails_prepare hfresh h
    · have hrefused : (r.run (service.refusing cause) organization size).Fails b e _ :=
        fails_run_of_prepare h
      exact ⟨hrefused.1.trans hresult.symm, hrefused.2.trans hstate.symm⟩

end Fresh

/-- Just these calls ask for a signature, and they ask for one. -/
lemma signatures_run (service : SecureService σ) (organization : String) (size : Nat) (r : Request)
    (s : σ) :
    let noted := (r.run service.noting organization size).run { service := (s, []) }
    (.bodyEncoded ∉ noted.state.passed ∧ signatures noted.state.service.2 = []) ∨
    (.bodyEncoded ∈ noted.state.passed ∧ ∃ message answer,
      signatures noted.state.service.2 = [⟨.sign r.id message, answer⟩]) := by
  intro noted
  have hbefore := signatures_prepare service r.table organization r.uuid r.id
    (started { service := (s, []) } (r.target.space size))
  rcases Action.returns_or_fails (prepare service.noting r.table organization r.uuid r.id)
    (started { service := (s, []) } (r.target.space size)) with ⟨message, h⟩ | ⟨e, h⟩
  · obtain ⟨hservice, more, hpassed⟩ := state_run_of_prepare h
    obtain ⟨answer, hone⟩ := signatures_complete service r.id message _
    refine .inr ⟨?_, message, answer, ?_⟩
    · rw [hpassed, passed_of_returns_prepare rfl h]
      exact List.mem_append_right _ List.mem_cons_self
    · rw [hservice, hone, hbefore]
      rfl
  · obtain ⟨-, hstate⟩ := fails_run_of_prepare h
    refine .inl ⟨?_, ?_⟩
    · rw [hstate]
      exact not_mem_of_fails_prepare rfl h
    · rw [hstate]
      exact hbefore

end Request

/-! ## Histories -/

/-- How a call ended. -/
structure Report where
  /-- The call. -/
  request : Request
  /-- Its result. -/
  result : Except Failure request.target.Value

/-- The stage that tells of the last call, if there was one. -/
def Report.stage : Option Report → Stage
  | none => .start
  | some ⟨_, .error e⟩ => .failed e
  | some ⟨⟨_, _, _, .buffer _⟩, .ok _⟩ => .assembled
  | some ⟨⟨_, _, _, .format _⟩, .ok _⟩ => .done

/-- What happens to a builder: a call, or something that changes the service between two calls. -/
inductive Event (σ : Type) where
  | request (r : Request)
  | elsewhere (change : σ → σ)

/-- A builder, and how its last call ended. -/
structure History (σ : Type) where
  /-- The builder. -/
  builder : Build σ
  /-- The last call. -/
  last : Option Report := none

namespace History

variable {σ : Type}

/-- One more event. -/
def next (service : SecureService σ) (organization : String) (size : Nat) (h : History σ) :
    Event σ → History σ
  | .request r =>
    let outcome := (r.run service organization size).run h.builder
    ⟨outcome.state, some ⟨r, outcome.result⟩⟩
  | .elsewhere change =>
    { h with builder := { h.builder with service := change h.builder.service } }

/-- A new builder after some events. -/
def after (service : SecureService σ) (organization : String) (size : Nat) (s : σ)
    (events : List (Event σ)) : History σ :=
  events.foldl (next service organization size) { builder := { service := s } }

/-- The stage tells how the last call ended. -/
def Tells (h : History σ) : Prop := h.builder.stage = Report.stage h.last

/-- The course of a call ends with the stage that tells its outcome. -/
lemma stage_of_course {r : Request} {result : Except Failure r.target.Value}
    {stages : List Stage} (h : Request.Course r.target result stages) (b : Build σ)
    (passed : List Stage) (hpassed : b.passed = stages.reverse ++ passed) :
    b.stage = Report.stage (some ⟨r, result⟩) := by
  rw [Build.stage, hpassed]
  obtain ⟨table, id, uuid, octets | form⟩ := r
  · cases h with
    | made value => rfl
    | failed e hfar => simp [Report.stage]
  · cases h with
    | made value => cases form <;> rfl
    | failed e hfar => simp [Report.stage]

lemma tells_next (service : SecureService σ) (organization : String) (size : Nat) {h : History σ}
    (htells : h.Tells) (event : Event σ) : (next service organization size h event).Tells := by
  cases event with
  | request r =>
    obtain ⟨stages, hcourse, hpassed⟩ :=
      Request.course_run service organization size r h.builder
    exact stage_of_course hcourse _ _ hpassed
  | elsewhere change => exact htells

lemma tells_after (service : SecureService σ) (organization : String) (size : Nat) (s : σ)
    (events : List (Event σ)) : (after service organization size s events).Tells := by
  have hall : ∀ {h : History σ}, h.Tells →
      (events.foldl (next service organization size) h).Tells := by
    induction events with
    | nil => exact id
    | cons event events ih =>
      intro h htells
      exact ih (tells_next service organization size htells event)
  exact hall rfl

end History

/-! ## The main result -/

/-- **The stage tells the outcome of the last call.**  Whatever the service answers, and whatever
happens to it between the calls, a new builder is at the start; after a call that failed, at the
failure with its cause; and after a call that returned, at the complete request in the caller's
buffer, or at the end if a form was asked for.

Each call does the same with a builder that has been used as with a new one, and adds its own stages
to those that had been passed.  These are all stages in their order, but for the armored one if
plain octets are asked for; or, with a failure, those up to some milestone and then the failure.  A
signature is asked for once by the calls that come to encode the body, for the key of the call, and
not at all by others.  It is asked for just then: if the service refuses, the first kind ends right
there, and the second kind does not notice. -/
theorem stage_tells_outcome {σ : Type} (service : SecureService σ) (organization : String)
    (size : Nat) :
    (∀ (s : σ) (events : List (Event σ)),
      let reached := History.after service organization size s events
      reached.builder.stage = Report.stage reached.last) ∧
    ∀ (r : Request) (s : σ),
      let outcome := (r.run service organization size).run { service := s }
      let noted := (r.run service.noting organization size).run { service := (s, []) }
      let signatures := noted.state.service.2.filter fun inquiry => inquiry.question.asksSignature
      (∀ tail passed,
        (r.run service organization size).run ⟨s, tail, passed⟩ =
          ⟨outcome.result, { outcome.state with passed := outcome.state.passed ++ passed },
            outcome.log⟩) ∧
      Request.Course r.target outcome.result outcome.state.passed.reverse ∧
      (noted.result = outcome.result ∧ noted.state.service.1 = outcome.state.service ∧
        noted.state.passed = outcome.state.passed) ∧
      (.bodyEncoded ∉ outcome.state.passed → signatures = []) ∧
      (.bodyEncoded ∈ outcome.state.passed →
        ∃ message answer, signatures = [⟨.sign r.id message, answer⟩]) ∧
      ∀ cause,
        let refused := (r.run (service.refusing cause) organization size).run { service := s }
        (.bodyEncoded ∉ outcome.state.passed →
          refused.result = outcome.result ∧ refused.state = outcome.state) ∧
        (.bodyEncoded ∈ outcome.state.passed →
          refused.result = .error cause.ofSigning ∧
            refused.state.passed.reverse =
              [.start, .subjectBuilt, .bodyEncoded, .failed cause.ofSigning]) := by
  refine ⟨History.tells_after service organization size, fun r s => ?_⟩
  intro outcome noted signatures
  obtain ⟨stages, hcourse, hpassed⟩ :=
    Request.course_run service organization size r { service := s }
  obtain ⟨hresult, ⟨hservice, -, hsame⟩, -⟩ := Request.matches_run
    (b := { service := s }) (c := { service := (s, []) }) (P := Eq)
    (fun stage _ _ => congrArg (List.cons stage)) service.alike_noting organization size r rfl rfl
  refine ⟨Request.run_of_used service organization size r s, ?_, ⟨?_, hservice, hsame.symm⟩, ?_⟩
  · rw [hpassed, List.append_nil, List.reverse_reverse]
    exact hcourse
  · exact (hresult.eq fun hshared => hshared.1).symm
  · have hsigned := Request.signatures_run service organization size r s
    have hpassed' : outcome.state.passed = noted.state.passed := hsame
    have hrefused := Request.run_refusing (b := { service := s }) rfl service organization size r
    refine ⟨fun hnot => ?_, fun hmem => ?_, fun cause => ⟨fun hnot => ?_, fun hmem => ?_⟩⟩
    · exact (hsigned.resolve_right fun h => hnot (hpassed' ▸ h.1)).2
    · exact (hsigned.resolve_left fun h => h.1 (hpassed' ▸ hmem)).2
    · exact (hrefused.resolve_right fun h => hnot h.1).2 cause
    · exact (hrefused.resolve_left fun h => h.1 hmem).2 cause

/-- A service that exports a key and does not sign.  A call for a key of the table ends at the
signature, which it asks for once; a call for no such key ends at the start, after the other one as
well as before it. -/
theorem stage_tells_outcome_keyOnly :
    let service := keyOnly (0x04 :: List.replicate 64 0) (.invalidInput "slot 3")
    let table := KeyTable.empty.set .clientTls .keyGenerated
    let known : Request := ⟨table, KeyId.clientTls, "u", .format .pem⟩
    let unknown : Request := ⟨table, ⟨0x5004⟩, "u", .buffer []⟩
    let stage := fun events => (History.after service "o" 512 () events).builder.stage
    let asked := fun r : Request => signatures
      ((r.run service.noting "o" 512).run { service := ((), []) }).state.service.2
    let refused := fun r : Request =>
      ((r.run (service.refusing .transportUnavailable) "o" 512).run { service := () }).state.passed
    stage [] = .start ∧
    stage [.request unknown, .request known] = .failed .signingFailed ∧
    stage [.request known, .elsewhere id, .request unknown] = .failed .unknownKeyId ∧
    (∃ message answer, asked known = [⟨.sign KeyId.clientTls message, answer⟩]) ∧
    (refused known).reverse =
      [.start, .subjectBuilt, .bodyEncoded, .failed .transportUnavailable] ∧
    asked unknown = [] ∧ (refused unknown).reverse = [.start, .failed .unknownKeyId] := by
  intro service table known unknown stage asked refused
  obtain ⟨hstage, hcall⟩ := stage_tells_outcome service "o" 512
  obtain ⟨-, -, -, -, hone, hrefused⟩ := hcall known ()
  obtain ⟨-, -, -, hnone, -, hsame⟩ := hcall unknown ()
  have hmem : .bodyEncoded ∈ ((known.run service "o" 512).run { service := () }).state.passed := by
    decide +kernel
  have hnot :
      .bodyEncoded ∉ ((unknown.run service "o" 512).run { service := () }).state.passed := by
    decide +kernel
  refine ⟨hstage () [], ?_, ?_, hone hmem, ((hrefused _).2 hmem).2, hnone hnot, ?_⟩
  · exact (hstage () [.request unknown, .request known]).trans (by decide +kernel)
  · exact (hstage () [.request known, .elsewhere id, .request unknown]).trans (by decide +kernel)
  · have hunaware := ((hsame .transportUnavailable).1 hnot).2
    calc (refused unknown).reverse
        = ((unknown.run service "o" 512).run { service := () }).state.passed.reverse :=
          congrArg (fun b => b.passed.reverse) hunaware
      _ = [.start, .failed .unknownKeyId] := by decide +kernel

end CertRequest

end DeviceIdentity

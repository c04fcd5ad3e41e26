import DeviceIdentity.Proofs.Action

/-!
# What a step says of its failure

Most steps emit nothing unless they fail, and then what they emit is told by the cause alone.  Such
steps can be put together: the first one that fails is the one that speaks.

* `Action.reported` — what is said of a result, given what is said of each cause.
* `Action.Reports` — from a state, what the step emits is what is said of its result.
* `reports_bind` — a sequence reports what its parts report.
* `Action.Quiet` — the step emits nothing.
* `log_bind_of_returns`, `log_bind_of_fails` — the records of other sequences.
-/

namespace DeviceIdentity

/-! ## Labels -/

namespace Failure

lemma eq_signingFailed_iff (e : Failure) : e = signingFailed ↔ e.label = signingFailed.label := by
  cases e <;> simp [label]

lemma eq_bufferTooSmall_iff (e : Failure) :
    e = bufferTooSmall ↔ e.label = bufferTooSmall.label := by
  cases e <;> simp [label]

end Failure

namespace Action

variable {σ τ α β : Type}

/-! ## The records of a sequence -/

lemma log_bind_of_returns {step : Action σ α} {next : α → Action σ β} {a : α} {s s' : σ}
    (h : step.Returns s a s') :
    ((step >>= next).run s).log = (step.run s).log ++ ((next a).run s').log := by
  rw [run_bind_of_ok h.1, h.2]

lemma log_bind_of_fails {step : Action σ α} {next : α → Action σ β} {e : Failure} {s s' : σ}
    (h : step.Fails s e s') : ((step >>= next).run s).log = (step.run s).log := by
  rw [run_bind_of_error h.1]

/-! ## Reports -/

/-- Nothing is said of a value, and of a failure what `tells` makes of it. -/
def reported (tells : Failure → List LogRecord) : Except Failure α → List LogRecord
  | .ok _ => []
  | .error e => tells e

@[simp] lemma reported_map (tells : Failure → List LogRecord) (f : α → β) (r : Except Failure α) :
    reported tells (r.map f) = reported tells r := by
  cases r <;> rfl

/-- The label of the failure, if there is one. -/
def label? : Except Failure α → Option String
  | .ok _ => none
  | .error e => some e.label

/-- Results with the same label, of which the same is said when it is told by the label. -/
lemma reported_eq_of_label {tells tells' : Failure → List LogRecord} {r : Except Failure α}
    {r' : Except Failure β} (h : label? r = label? r')
    (htells : ∀ {e e' : Failure}, e.label = e'.label → tells e = tells' e') :
    reported tells r = reported tells' r' := by
  cases r with
  | ok a =>
    cases r' with
    | ok b => rfl
    | error e' => cases h
  | error e =>
    cases r' with
    | ok b => cases h
    | error e' => exact htells (Option.some.inj h)

/-- What the step emits from `s` is what is said of its result. -/
def Reports (tells : Failure → List LogRecord) (step : Action σ α) (s : σ) : Prop :=
  (step.run s).log = reported tells (step.run s).result

/-- The step emits nothing from `s`. -/
def Quiet (step : Action σ α) (s : σ) : Prop := step.Reports (fun _ => []) s

section Reports

variable {tells : Failure → List LogRecord} {s : σ}

lemma Reports.log_of_returns {step : Action σ α} {a : α} {s' : σ} (h : step.Reports tells s)
    (hreturns : step.Returns s a s') : (step.run s).log = [] := by
  rw [h, hreturns.1]
  rfl

lemma Reports.log_of_fails {step : Action σ α} {e : Failure} {s' : σ} (h : step.Reports tells s)
    (hfails : step.Fails s e s') : (step.run s).log = tells e := by
  rw [h, hfails.1]
  rfl

lemma Quiet.log {step : Action σ α} (h : step.Quiet s) : (step.run s).log = [] := by
  rcases step.returns_or_fails s with ⟨a, hreturns⟩ | ⟨e, hfails⟩
  · exact Reports.log_of_returns h hreturns
  · exact Reports.log_of_fails h hfails

/-- A quiet step reports, if nothing is said of the causes that it fails with. -/
lemma Quiet.reports {step : Action σ α} (h : step.Quiet s)
    (htells : ∀ {e s'}, step.Fails s e s' → tells e = []) : step.Reports tells s := by
  rw [Reports, h.log]
  cases hresult : (step.run s).result with
  | ok a => rfl
  | error e => exact (htells ⟨hresult, rfl⟩).symm

lemma reports_pure (a : α) : (pure a : Action σ α).Reports tells s := rfl

lemma reports_fail {e : Failure} (h : tells e = []) : (fail e : Action σ α).Reports tells s :=
  h.symm

lemma reports_ofExcept {r : Except Failure α} (h : ∀ {e}, r = .error e → tells e = []) :
    (ofExcept r : Action σ α).Reports tells s := by
  cases r with
  | ok a => rfl
  | error e => exact (h rfl).symm

lemma reports_get : (get : Action σ σ).Reports tells s := rfl

lemma reports_modify (f : σ → σ) : (modify f).Reports tells s := rfl

/-- A failure that is announced. -/
lemma reports_log_fail {level : LogLevel} {target message : String} {e : Failure}
    (h : tells e = [⟨level, target, message⟩]) :
    (do log level target message; fail e : Action σ α).Reports tells s :=
  h.symm

lemma reports_bind {step : Action σ α} {next : α → Action σ β} (h : step.Reports tells s)
    (hnext : ∀ {a s'}, step.Returns s a s' → (next a).Reports tells s') :
    (step >>= next).Reports tells s := by
  rcases step.returns_or_fails s with ⟨a, hreturns⟩ | ⟨e, hfails⟩
  · have hrest := hnext hreturns
    rw [Reports, log_bind_of_returns hreturns, h.log_of_returns hreturns, List.nil_append, hrest,
      run_bind_of_ok hreturns.1]
  · rw [Reports, log_bind_of_fails hfails, h.log_of_fails hfails, run_bind_of_error hfails.1]
    rfl

lemma reports_mapFailure {step : Action σ α} {rename : Failure → Failure}
    (h : step.Reports (fun e => tells (rename e)) s) :
    (step.mapFailure rename).Reports tells s := by
  rw [Reports] at h ⊢
  rw [run_mapFailure, h]
  cases (step.run s).result with
  | ok a => rfl
  | error e => rfl

/-- A quiet step stays quiet when its failure is renamed to one of which nothing is said. -/
lemma Quiet.reports_mapFailure {step : Action σ α} {rename : Failure → Failure}
    (h : step.Quiet s) (htells : ∀ e, tells (rename e) = []) :
    (step.mapFailure rename).Reports tells s :=
  Action.reports_mapFailure (h.reports fun _ => htells _)

lemma reports_within {view : τ → σ} {put : σ → τ → τ} {step : Action σ α} {t : τ}
    (h : step.Reports tells (view t)) : (step.within view put).Reports tells t :=
  h

end Reports

end Action

end DeviceIdentity

import DeviceIdentity.Proofs.Action

/-!
# Two steps side by side

Two steps that are built in the same way are compared part by part.  They may work on different
states, return different values and fail with different causes, as long as the differences stay
within given relations.  Of the records, only those are compared that an observer sees.

* `Action.Ends` — two results are both values or both failures, and related.
* `Action.Relates` — from related states, two steps end alike, in related states, and an observer
  sees the same records.
* `Matches.bind`, `relates_bind` — two sequences are related when their parts are.
* `Action.FailsOnlyWith` — the step fails with none but the given causes;
  `Relates.failsOnlyWith` — so does a step that is related to itself within these causes.
-/

namespace DeviceIdentity

namespace Action

variable {σ τ α α' β β' : Type}

/-! ## Results -/

/-- Both are values, or both are failures, and they are related. -/
inductive Ends (V : α → β → Prop) (E : Failure → Failure → Prop) :
    Except Failure α → Except Failure β → Prop
  | ok {a : α} {b : β} (h : V a b) : Ends V E (.ok a) (.ok b)
  | error {e e' : Failure} (h : E e e') : Ends V E (.error e) (.error e')

section Ends

variable {V : α → β → Prop} {E E' : Failure → Failure → Prop} {r : Except Failure α}
  {r' : Except Failure β}

lemma Ends.mapError {rename rename' : Failure → Failure} (h : Ends V E r r')
    (hrename : ∀ {e e'}, E e e' → E' (rename e) (rename' e')) :
    Ends V E' (r.mapError rename) (r'.mapError rename') := by
  cases h with
  | ok hvalue => exact .ok hvalue
  | error hcause => exact .error (hrename hcause)

lemma Ends.eq {r r' : Except Failure α} (h : Ends Eq E r r') (hE : ∀ {e e'}, E e e' → e = e') :
    r = r' := by
  cases h with
  | ok hvalue => rw [hvalue]
  | error hcause => rw [hE hcause]

/-- A result ends like itself when its failure does. -/
lemma ends_self {r : Except Failure α} (h : ∀ {e}, r = .error e → E e e) : Ends Eq E r r := by
  cases r with
  | ok a => exact .ok rfl
  | error e => exact .error (h rfl)

end Ends

/-! ## Steps -/

/-- Two outcomes end alike, in related states, and with the same records among those seen. -/
structure Matches (R : σ → τ → Prop) (seen : LogRecord → Bool) (V : α → β → Prop)
    (E : Failure → Failure → Prop) (o : Outcome σ α) (o' : Outcome τ β) : Prop where
  result : Ends V E o.result o'.result
  state : R o.state o'.state
  log : o.log.filter seen = o'.log.filter seen

/-- From related states, the outcomes of two steps match. -/
def Relates (R : σ → τ → Prop) (seen : LogRecord → Bool) (V : α → β → Prop)
    (E : Failure → Failure → Prop) (step : Action σ α) (other : Action τ β) : Prop :=
  ∀ s t, R s t → Matches R seen V E (step.run s) (other.run t)

section Relates

variable {R : σ → τ → Prop} {seen : LogRecord → Bool} {V : α → β → Prop}
  {E E' : Failure → Failure → Prop}

lemma relates_self {step : Action σ α} (hE : ∀ e, E e e) : step.Relates Eq seen Eq E step := by
  rintro s _ rfl
  exact ⟨ends_self fun _ => hE _, rfl, rfl⟩

lemma relates_pure {a : α} {b : β} (h : V a b) :
    (pure a : Action σ α).Relates R seen V E (pure b : Action τ β) :=
  fun _ _ hrel => ⟨.ok h, hrel, rfl⟩

lemma relates_fail {e e' : Failure} (h : E e e') :
    (fail e : Action σ α).Relates R seen V E (fail e' : Action τ β) :=
  fun _ _ hrel => ⟨.error h, hrel, rfl⟩

lemma relates_ofExcept {r : Except Failure α} {r' : Except Failure β} (h : Ends V E r r') :
    (ofExcept r : Action σ α).Relates R seen V E (ofExcept r' : Action τ β) :=
  fun _ _ hrel => ⟨h, hrel, rfl⟩

lemma relates_get : (get : Action σ σ).Relates R seen R E (get : Action τ τ) :=
  fun _ _ hrel => ⟨.ok hrel, hrel, rfl⟩

lemma relates_modify {f : σ → σ} {g : τ → τ} (h : ∀ {s t}, R s t → R (f s) (g t)) :
    (modify f).Relates R seen Eq E (modify g) :=
  fun _ _ hrel => ⟨.ok rfl, h hrel, rfl⟩

lemma relates_log (level : LogLevel) (target message : String) :
    (log level target message : Action σ Unit).Relates R seen Eq E
      (log level target message : Action τ Unit) :=
  fun _ _ hrel => ⟨.ok rfl, hrel, rfl⟩

lemma relates_attempt {step : Action σ α} {other : Action τ β}
    (h : step.Relates R seen V E other) : step.attempt.Relates R seen (Ends V E) E' other.attempt :=
  fun s t hrel => ⟨.ok (h s t hrel).result, (h s t hrel).state, (h s t hrel).log⟩

lemma relates_mapFailure {rename rename' : Failure → Failure} {step : Action σ α}
    {other : Action τ β} (h : step.Relates R seen V E other)
    (hrename : ∀ {e e'}, E e e' → E' (rename e) (rename' e')) :
    (step.mapFailure rename).Relates R seen V E' (other.mapFailure rename') :=
  fun s t hrel =>
    ⟨(h s t hrel).result.mapError hrename, (h s t hrel).state, (h s t hrel).log⟩

/-- On parts of larger states, two steps are related when the parts are, and when replacing the
parts by related ones leaves the states related. -/
lemma relates_within {ρ υ : Type} {Q : ρ → υ → Prop} {view : ρ → σ} {put : σ → ρ → ρ}
    {view' : υ → τ} {put' : τ → υ → υ} {step : Action σ α} {other : Action τ β}
    (h : step.Relates R seen V E other) (hview : ∀ {p q}, Q p q → R (view p) (view' q))
    (hput : ∀ {p q s t}, Q p q → R s t → Q (put s p) (put' t q)) :
    (step.within view put).Relates Q seen V E (other.within view' put') := by
  intro p q hrel
  obtain ⟨hresult, hstate, hlog⟩ := h _ _ (hview hrel)
  exact ⟨hresult, hput hrel hstate, hlog⟩

/-- After outcomes that match, steps that are related lead to outcomes that match. -/
lemma Matches.bind {W : α' → β' → Prop} {step : Action σ α} {other : Action τ β}
    {next : α → Action σ α'} {next' : β → Action τ β'} {s : σ} {t : τ}
    (h : Matches R seen V E (step.run s) (other.run t))
    (hnext : ∀ {a b}, V a b → (next a).Relates R seen W E (next' b)) :
    Matches R seen W E ((step >>= next).run s) ((other >>= next').run t) := by
  obtain ⟨hresult, hstate, hlog⟩ := h
  cases hr : (step.run s).result with
  | ok a =>
    cases hr' : (other.run t).result with
    | error e' =>
      rw [hr, hr'] at hresult
      cases hresult
    | ok b =>
      rw [hr, hr'] at hresult
      obtain ⟨hvalue⟩ := hresult
      obtain ⟨hresult', hstate', hlog'⟩ := hnext hvalue _ _ hstate
      rw [run_bind_of_ok hr, run_bind_of_ok hr']
      refine ⟨hresult', hstate', ?_⟩
      simp only [List.filter_append, hlog, hlog']
  | error e =>
    cases hr' : (other.run t).result with
    | ok b =>
      rw [hr, hr'] at hresult
      cases hresult
    | error e' =>
      rw [hr, hr'] at hresult
      rw [run_bind_of_error hr, run_bind_of_error hr']
      obtain - | hcause := hresult
      exact ⟨.error hcause, hstate, hlog⟩

lemma relates_bind {W : α' → β' → Prop} {step : Action σ α} {other : Action τ β}
    {next : α → Action σ α'} {next' : β → Action τ β'} (h : step.Relates R seen V E other)
    (hnext : ∀ {a b}, V a b → (next a).Relates R seen W E (next' b)) :
    (step >>= next).Relates R seen W E (other >>= next') :=
  fun s t hrel => (h s t hrel).bind hnext

/-- A sequence whose first steps return the same value. -/
lemma relates_bind_eq {W : α' → β' → Prop} {step : Action σ α} {other : Action τ α}
    {next : α → Action σ α'} {next' : α → Action τ β'} (h : step.Relates R seen Eq E other)
    (hnext : ∀ a, (next a).Relates R seen W E (next' a)) :
    (step >>= next).Relates R seen W E (other >>= next') := by
  refine relates_bind h ?_
  rintro a _ rfl
  exact hnext a

end Relates

/-! ## The causes of failure -/

/-- The step fails with none but the given causes. -/
def FailsOnlyWith (causes : List Failure) (step : Action σ α) : Prop :=
  ∀ {s s' : σ} {e : Failure}, step.Fails s e s' → e ∈ causes

/-- One cause, which is among those given, on both sides. -/
def Shared (causes : List Failure) (e e' : Failure) : Prop := e = e' ∧ e ∈ causes

lemma Relates.failsOnlyWith {R : σ → σ → Prop} {seen : LogRecord → Bool} {V : α → α → Prop}
    {causes : List Failure} {step : Action σ α}
    (h : step.Relates R seen V (Shared causes) step) (hrefl : ∀ s, R s s) :
    step.FailsOnlyWith causes := by
  rintro s s' e ⟨hresult, -⟩
  have hends := (h s s (hrefl s)).result
  rw [hresult] at hends
  obtain - | ⟨-, hmem⟩ := hends
  exact hmem

end Action

end DeviceIdentity

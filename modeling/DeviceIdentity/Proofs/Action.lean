import Mathlib.Order.RelClasses
import Mathlib.Tactic.Lemma
import DeviceIdentity.Action

/-!
# How a step ends, and what it keeps

A step that is built from others is taken apart along its construction.  What it logs plays no part
in what it does, so the records are left out.

* `Action.Returns` — the step returns a value and reaches a state.
* `Action.Fails` — the step fails and reaches a state.
* `returns_bind`, `fails_bind` — how a sequence ends; `Action.bind_pure`, `Action.bind_assoc` — it
  does not matter how it is put together.
* `Action.Keeps` — every run of the step, failing or not, relates the states before and after.
* `keeps_bind` — what the steps of a sequence keep, all of it keeps.
* `Action.AllOrNothing` — the step leaves the state alone when it fails.
* `Action.Respects` — the step does not tell related states apart.
-/

namespace DeviceIdentity

namespace Action

variable {σ τ α β : Type}

/-- The step returns `a` from `s` and reaches `s'`. -/
def Returns (step : Action σ α) (s : σ) (a : α) (s' : σ) : Prop :=
  (step.run s).result = .ok a ∧ (step.run s).state = s'

/-- The step fails with `e` from `s` and reaches `s'`. -/
def Fails (step : Action σ α) (s : σ) (e : Failure) (s' : σ) : Prop :=
  (step.run s).result = .error e ∧ (step.run s).state = s'

lemma returns_of_result {step : Action σ α} {s : σ} {a : α} (h : (step.run s).result = .ok a) :
    step.Returns s a (step.run s).state :=
  ⟨h, rfl⟩

lemma Returns.unique {step : Action σ α} {s s' s'' : σ} {a b : α}
    (h : step.Returns s a s') (h' : step.Returns s b s'') : a = b ∧ s' = s'' := by
  obtain ⟨hr, hs⟩ := h
  obtain ⟨hr', hs'⟩ := h'
  refine ⟨?_, hs.symm.trans hs'⟩
  rw [hr] at hr'
  exact Except.ok.inj hr'

lemma Fails.unique {step : Action σ α} {s s' s'' : σ} {e e' : Failure}
    (h : step.Fails s e s') (h' : step.Fails s e' s'') : e = e' ∧ s' = s'' := by
  obtain ⟨hr, hs⟩ := h
  obtain ⟨hr', hs'⟩ := h'
  refine ⟨?_, hs.symm.trans hs'⟩
  rw [hr] at hr'
  exact Except.error.inj hr'

lemma not_fails_of_returns {step : Action σ α} {s s' s'' : σ} {a : α} {e : Failure}
    (h : step.Returns s a s') : ¬step.Fails s e s'' := by
  rintro ⟨hr, -⟩
  rw [h.1] at hr
  cases hr

lemma returns_or_fails (step : Action σ α) (s : σ) :
    (∃ a, step.Returns s a (step.run s).state) ∨ ∃ e, step.Fails s e (step.run s).state := by
  cases h : (step.run s).result with
  | ok a => exact .inl ⟨a, h, rfl⟩
  | error e => exact .inr ⟨e, h, rfl⟩

/-! ## How each operation ends -/

@[simp] lemma returns_pure {a b : α} {s s' : σ} :
    (pure a : Action σ α).Returns s b s' ↔ a = b ∧ s = s' := by
  simp only [Returns, run_pure, Except.ok.injEq]

@[simp] lemma fails_pure {a : α} {e : Failure} {s s' : σ} :
    (pure a : Action σ α).Fails s e s' ↔ False := by
  simp [Fails]

@[simp] lemma returns_fail {e : Failure} {a : α} {s s' : σ} :
    (fail e : Action σ α).Returns s a s' ↔ False := by
  simp [Returns]

@[simp] lemma fails_fail {e e' : Failure} {s s' : σ} :
    (fail e : Action σ α).Fails s e' s' ↔ e = e' ∧ s = s' := by
  simp [Fails]

@[simp] lemma returns_ofExcept {r : Except Failure α} {a : α} {s s' : σ} :
    (ofExcept r : Action σ α).Returns s a s' ↔ r = .ok a ∧ s = s' := by
  simp only [Returns, run_ofExcept]

@[simp] lemma returns_get {s t s' : σ} : (get : Action σ σ).Returns s t s' ↔ s = t ∧ s = s' := by
  simp only [Returns, run_get, Except.ok.injEq]

@[simp] lemma fails_get {s s' : σ} {e : Failure} : (get : Action σ σ).Fails s e s' ↔ False := by
  simp [Fails]

@[simp] lemma returns_modify {f : σ → σ} {u : Unit} {s s' : σ} :
    (modify f).Returns s u s' ↔ f s = s' := by
  simp [Returns]

@[simp] lemma fails_modify {f : σ → σ} {e : Failure} {s s' : σ} :
    (modify f).Fails s e s' ↔ False := by
  simp [Fails]

@[simp] lemma returns_log {level : LogLevel} {target message : String} {u : Unit} {s s' : σ} :
    (log level target message).Returns s u s' ↔ s = s' := by
  simp [Returns]

@[simp] lemma fails_log {level : LogLevel} {target message : String} {e : Failure} {s s' : σ} :
    (log level target message).Fails s e s' ↔ False := by
  simp [Fails]

@[simp] lemma returns_bind {step : Action σ α} {next : α → Action σ β} {b : β} {s s'' : σ} :
    (step >>= next).Returns s b s'' ↔
      ∃ a s', step.Returns s a s' ∧ (next a).Returns s' b s'' := by
  constructor
  · rintro ⟨hr, hs⟩
    cases h : (step.run s).result with
    | ok a =>
      rw [run_bind_of_ok h] at hr hs
      exact ⟨a, (step.run s).state, ⟨h, rfl⟩, hr, hs⟩
    | error e =>
      rw [run_bind_of_error h] at hr
      cases hr
  · rintro ⟨a, s', ⟨h, rfl⟩, hr, hs⟩
    rw [Returns, run_bind_of_ok h]
    exact ⟨hr, hs⟩

lemma fails_bind {step : Action σ α} {next : α → Action σ β} {e : Failure} {s s'' : σ} :
    (step >>= next).Fails s e s'' ↔
      step.Fails s e s'' ∨ ∃ a s', step.Returns s a s' ∧ (next a).Fails s' e s'' := by
  constructor
  · rintro ⟨hr, hs⟩
    cases h : (step.run s).result with
    | ok a =>
      rw [run_bind_of_ok h] at hr hs
      exact .inr ⟨a, (step.run s).state, ⟨h, rfl⟩, hr, hs⟩
    | error e' =>
      rw [run_bind_of_error h] at hr hs
      cases hr
      exact .inl ⟨h, hs⟩
  · rintro (⟨hr, hs⟩ | ⟨a, s', ⟨h, rfl⟩, hr, hs⟩)
    · rw [Fails, run_bind_of_error hr]
      exact ⟨rfl, hs⟩
    · rw [Fails, run_bind_of_ok h]
      exact ⟨hr, hs⟩

lemma state_bind_of_returns {step : Action σ α} {next : α → Action σ β} {a : α} {s s' : σ}
    (h : step.Returns s a s') : ((step >>= next).run s).state = ((next a).run s').state := by
  rw [run_bind_of_ok h.1, h.2]

lemma state_bind_of_fails {step : Action σ α} {next : α → Action σ β} {e : Failure} {s s' : σ}
    (h : step.Fails s e s') : ((step >>= next).run s).state = s' := by
  rw [run_bind_of_error h.1, h.2]

/-- What is made of the value afterwards does not touch the state. -/
lemma state_bind_pure (step : Action σ α) (f : α → β) (s : σ) :
    ((step >>= fun a => pure (f a)).run s).state = (step.run s).state := by
  cases h : (step.run s).result with
  | ok a => rw [run_bind_of_ok h, run_pure]
  | error e => rw [run_bind_of_error h]

@[simp] lemma returns_attempt {step : Action σ α} {r : Except Failure α} {s s' : σ} :
    step.attempt.Returns s r s' ↔ (step.run s).result = r ∧ (step.run s).state = s' := by
  simp only [Returns, run_attempt, Except.ok.injEq]

@[simp] lemma returns_mapFailure {rename : Failure → Failure} {step : Action σ α} {a : α}
    {s s' : σ} : (step.mapFailure rename).Returns s a s' ↔ step.Returns s a s' := by
  simp only [Returns, run_mapFailure]
  cases (step.run s).result <;> simp [Except.mapError]

@[simp] lemma returns_within {view : τ → σ} {put : σ → τ → τ} {step : Action σ α} {a : α}
    {t t' : τ} : (step.within view put).Returns t a t' ↔
      ∃ s', step.Returns (view t) a s' ∧ put s' t = t' := by
  simp only [Returns, run_within]
  constructor
  · rintro ⟨hr, hs⟩
    exact ⟨_, ⟨hr, rfl⟩, hs⟩
  · rintro ⟨s', ⟨hr, rfl⟩, hs⟩
    exact ⟨hr, hs⟩

lemma fails_within {view : τ → σ} {put : σ → τ → τ} {step : Action σ α} {e : Failure} {t t' : τ} :
    (step.within view put).Fails t e t' ↔ ∃ s', step.Fails (view t) e s' ∧ put s' t = t' := by
  simp only [Fails, run_within]
  constructor
  · rintro ⟨hr, hs⟩
    exact ⟨_, ⟨hr, rfl⟩, hs⟩
  · rintro ⟨s', ⟨hr, rfl⟩, hs⟩
    exact ⟨hr, hs⟩

/-! ## Sequences of sequences -/

protected lemma bind_pure (step : Action σ α) : (step >>= fun a => pure a) = step := by
  funext s
  change (step >>= fun a => pure a).run s = step.run s
  cases h : (step.run s).result with
  | ok a => rw [run_bind_of_ok h, run_pure, List.append_nil, ← h]
  | error e => rw [run_bind_of_error h, ← h]

protected lemma bind_assoc {γ : Type} (step : Action σ α) (next : α → Action σ β)
    (last : β → Action σ γ) : (step >>= next) >>= last = step >>= fun a => next a >>= last := by
  funext s
  change ((step >>= next) >>= last).run s = (step >>= fun a => next a >>= last).run s
  cases h : (step.run s).result with
  | error e =>
    have hfirst : (step >>= next).run s = _ := run_bind_of_error h
    rw [run_bind_of_error h, run_bind_of_error (by rw [hfirst]), hfirst]
  | ok a =>
    have hfirst : (step >>= next).run s = _ := run_bind_of_ok h
    rw [run_bind_of_ok h]
    cases hnext : ((next a).run (step.run s).state).result with
    | error e =>
      rw [run_bind_of_error hnext, run_bind_of_error (by rw [hfirst, hnext]), hfirst]
    | ok b =>
      rw [run_bind_of_ok hnext, run_bind_of_ok (by rw [hfirst, hnext]), hfirst, List.append_assoc]

/-! ## What a step keeps -/

/-- Whatever the step does from a state, it ends in a state that is related to it. -/
def Keeps (R : σ → σ → Prop) (step : Action σ α) : Prop :=
  ∀ s, R s (step.run s).state

section Keeps

variable {R : σ → σ → Prop}

lemma Keeps.of_returns {step : Action σ α} (h : step.Keeps R) {s s' : σ} {a : α}
    (hrun : step.Returns s a s') : R s s' := by
  rw [← hrun.2]
  exact h s

lemma keeps_modify {f : σ → σ} (h : ∀ s, R s (f s)) : (modify f).Keeps R :=
  h

lemma keeps_attempt {step : Action σ α} (h : step.Keeps R) : step.attempt.Keeps R :=
  h

lemma keeps_mapFailure {step : Action σ α} (rename : Failure → Failure) (h : step.Keeps R) :
    (step.mapFailure rename).Keeps R :=
  h

/-- On a part of a larger state, a step keeps what replacing the part keeps. -/
lemma keeps_within {Q : τ → τ → Prop} {view : τ → σ} {put : σ → τ → τ} {step : Action σ α}
    (h : step.Keeps R) (hput : ∀ t s, R (view t) s → Q t (put s t)) :
    (step.within view put).Keeps Q := by
  intro t
  exact hput t _ (h (view t))

variable [IsPreorder σ R]

lemma keeps_pure (a : α) : (pure a : Action σ α).Keeps R :=
  refl_of R

lemma keeps_fail (e : Failure) : (fail e : Action σ α).Keeps R :=
  refl_of R

lemma keeps_ofExcept (r : Except Failure α) : (ofExcept r : Action σ α).Keeps R :=
  refl_of R

lemma keeps_get : (get : Action σ σ).Keeps R :=
  refl_of R

lemma keeps_log (level : LogLevel) (target message : String) :
    (log level target message).Keeps R :=
  refl_of R

lemma keeps_bind {step : Action σ α} {next : α → Action σ β} (h : step.Keeps R)
    (hnext : ∀ a, (next a).Keeps R) : (step >>= next).Keeps R := by
  intro s
  cases hr : (step.run s).result with
  | ok a =>
    rw [run_bind_of_ok hr]
    exact trans_of R (h s) (hnext a _)
  | error e =>
    rw [run_bind_of_error hr]
    exact h s

/-- From one state, with what is known of the first step's value and of the state it reaches. -/
lemma rel_bind {step : Action σ α} {next : α → Action σ β} {s : σ} (h : R s (step.run s).state)
    (hnext : ∀ {a s'}, step.Returns s a s' → R s' ((next a).run s').state) :
    R s ((step >>= next).run s).state := by
  cases hr : (step.run s).result with
  | ok a =>
    rw [run_bind_of_ok hr]
    exact trans_of R h (hnext (returns_of_result hr))
  | error e =>
    rw [run_bind_of_error hr]
    exact h

/-- What the steps after the first one keep holds from the state that the first one reaches. -/
lemma rel_after {next : α → Action σ β} (hnext : ∀ a, (next a).Keeps R) (step : Action σ α)
    (s : σ) : R (step.run s).state ((step >>= next).run s).state := by
  cases hr : (step.run s).result with
  | ok a =>
    rw [run_bind_of_ok hr]
    exact hnext a _
  | error e =>
    rw [run_bind_of_error hr]
    exact refl_of R _

end Keeps

/-! ## All or nothing -/

/-- A failure of the step leaves the state as it was. -/
def AllOrNothing (step : Action σ α) : Prop :=
  ∀ {s s' : σ} {e : Failure}, step.Fails s e s' → s' = s

lemma Keeps.allOrNothing {step : Action σ α} (h : step.Keeps Eq) : step.AllOrNothing := by
  intro s s' e hfails
  rw [← hfails.2]
  exact (h s).symm

lemma allOrNothing_modify (f : σ → σ) : (modify f).AllOrNothing :=
  fun h => (fails_modify.1 h).elim

/-- The first step changes nothing, so only the second one can. -/
lemma allOrNothing_bind {step : Action σ α} {next : α → Action σ β} (h : step.Keeps Eq)
    (hnext : ∀ a, (next a).AllOrNothing) : (step >>= next).AllOrNothing := by
  intro s s' e hfails
  rcases fails_bind.1 hfails with hfirst | ⟨a, reached, hreturns, hsecond⟩
  · exact h.allOrNothing hfirst
  · obtain rfl : s = reached := h.of_returns hreturns
    exact hnext a hsecond

/-- The second step does not fail, so only the first one can. -/
lemma allOrNothing_bind_pure {step : Action σ α} {f : α → β} (h : step.AllOrNothing) :
    (step >>= fun a => pure (f a)).AllOrNothing := by
  intro s s' e hfails
  rcases fails_bind.1 hfails with hfirst | ⟨a, reached, -, hsecond⟩
  · exact h hfirst
  · exact (fails_pure.1 hsecond).elim

/-! ## What a step does not see -/

/-- From related states the step ends with the same result, and in related states again. -/
def Respects (R : σ → σ → Prop) (step : Action σ α) : Prop :=
  ∀ {s s' : σ}, R s s' →
    (step.run s).result = (step.run s').result ∧ R (step.run s).state (step.run s').state

end Action

end DeviceIdentity

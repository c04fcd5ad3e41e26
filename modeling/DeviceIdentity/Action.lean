import DeviceIdentity.Log

/-!
# Actions

An `Action σ α` is a step that may change a state `σ`, emit log records, and either return an `α`
or fail.  A failure does not undo anything: the state that was reached and the records that were
emitted stay.  Records can only be added, never taken back or read, so what a step logs cannot
influence what it does.

* `Action.log` emits one record; `Action.modify` and `Action.get` use the state.
* `Action.attempt` turns a failure into a value, `Action.mapFailure` renames it.
* `Action.within` runs a step on a part of a larger state.
-/

namespace DeviceIdentity

/-- What a step leaves behind. -/
structure Outcome (σ α : Type) where
  /-- The value, or why there is none. -/
  result : Except Failure α
  /-- The state reached. -/
  state : σ
  /-- The records emitted, in order. -/
  log : List LogRecord

/-- A step that may change a state, emit records and fail. -/
def Action (σ α : Type) : Type := σ → Outcome σ α

namespace Action

variable {σ τ α β : Type}

/-- The outcome of a step from a given state. -/
def run (step : Action σ α) (state : σ) : Outcome σ α := step state

/-- The step that returns `a` and does nothing. -/
protected def pure (a : α) : Action σ α :=
  fun state => ⟨.ok a, state, []⟩

/-- One step after another; a failure ends the sequence. -/
protected def bind (step : Action σ α) (next : α → Action σ β) : Action σ β := fun state =>
  match step state with
  | ⟨.ok a, reached, log⟩ =>
    let rest := next a reached
    ⟨rest.result, rest.state, log ++ rest.log⟩
  | ⟨.error failure, reached, log⟩ => ⟨.error failure, reached, log⟩

instance : Monad (Action σ) where
  pure := Action.pure
  bind := Action.bind

/-- The step that fails. -/
def fail (failure : Failure) : Action σ α :=
  fun state => ⟨.error failure, state, []⟩

/-- The step that returns the value of `result`, or fails as `result` does. -/
def ofExcept (result : Except Failure α) : Action σ α :=
  fun state => ⟨result, state, []⟩

/-- The current state. -/
def get : Action σ σ :=
  fun state => ⟨.ok state, state, []⟩

/-- Replaces the state by its image under `f`. -/
def modify (f : σ → σ) : Action σ Unit :=
  fun state => ⟨.ok (), f state, []⟩

/-- Emits one record. -/
def log (level : LogLevel) (target message : String) : Action σ Unit :=
  fun state => ⟨.ok (), state, [⟨level, target, message⟩]⟩

/-- Runs a step that cannot fail: its result, failure included, is returned as a value. -/
def attempt (step : Action σ α) : Action σ (Except Failure α) := fun state =>
  let outcome := step state
  ⟨.ok outcome.result, outcome.state, outcome.log⟩

/-- Runs a step and renames its failure. -/
def mapFailure (rename : Failure → Failure) (step : Action σ α) : Action σ α := fun state =>
  let outcome := step state
  ⟨outcome.result.mapError rename, outcome.state, outcome.log⟩

/-- Runs a step on the part of a larger state that `view` shows and `put` replaces. -/
def within (view : τ → σ) (put : σ → τ → τ) (step : Action σ α) : Action τ α := fun state =>
  let outcome := step (view state)
  ⟨outcome.result, put outcome.state state, outcome.log⟩

/-- Runs a step on the first component of a pair. -/
def onFst (step : Action σ α) : Action (σ × τ) α :=
  step.within Prod.fst fun s p => (s, p.2)

/-! ## What each operation does -/

@[simp] theorem run_pure (a : α) (s : σ) : (pure a : Action σ α).run s = ⟨.ok a, s, []⟩ := rfl

@[simp] theorem run_fail (e : Failure) (s : σ) :
    (fail e : Action σ α).run s = ⟨.error e, s, []⟩ := rfl

@[simp] theorem run_ofExcept (r : Except Failure α) (s : σ) :
    (ofExcept r : Action σ α).run s = ⟨r, s, []⟩ := rfl

@[simp] theorem run_get (s : σ) : (get : Action σ σ).run s = ⟨.ok s, s, []⟩ := rfl

@[simp] theorem run_modify (f : σ → σ) (s : σ) : (modify f).run s = ⟨.ok (), f s, []⟩ := rfl

@[simp] theorem run_log (level : LogLevel) (target message : String) (s : σ) :
    (log level target message).run s = ⟨.ok (), s, [⟨level, target, message⟩]⟩ := rfl

/-- After a step that returns, the next one runs from the state reached, and its records follow. -/
theorem run_bind_of_ok {step : Action σ α} {next : α → Action σ β} {s : σ} {a : α}
    (h : (step.run s).result = .ok a) :
    (step >>= next).run s =
      ⟨((next a).run (step.run s).state).result, ((next a).run (step.run s).state).state,
        (step.run s).log ++ ((next a).run (step.run s).state).log⟩ := by
  change Action.bind step next s = _
  simp only [run] at h ⊢
  unfold Action.bind
  split
  · next a' r l hs => simp_all
  · next e r l hs => simp_all

/-- After a step that fails, nothing else runs. -/
theorem run_bind_of_error {step : Action σ α} {next : α → Action σ β} {s : σ} {e : Failure}
    (h : (step.run s).result = .error e) :
    (step >>= next).run s = ⟨.error e, (step.run s).state, (step.run s).log⟩ := by
  change Action.bind step next s = _
  simp only [run] at h ⊢
  unfold Action.bind
  split
  · next a' r l hs => simp_all
  · next e' r l hs => simp_all

@[simp] theorem run_attempt (step : Action σ α) (s : σ) :
    step.attempt.run s = ⟨.ok (step.run s).result, (step.run s).state, (step.run s).log⟩ := rfl

@[simp] theorem run_mapFailure (rename : Failure → Failure) (step : Action σ α) (s : σ) :
    (step.mapFailure rename).run s =
      ⟨(step.run s).result.mapError rename, (step.run s).state, (step.run s).log⟩ := rfl

@[simp] theorem run_within (view : τ → σ) (put : σ → τ → τ) (step : Action σ α) (t : τ) :
    (step.within view put).run t =
      ⟨(step.run (view t)).result, put (step.run (view t)).state t, (step.run (view t)).log⟩ := rfl

end Action

end DeviceIdentity

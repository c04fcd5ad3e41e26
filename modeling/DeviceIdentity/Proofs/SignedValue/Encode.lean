import Mathlib.Tactic.SplitIfs
import DeviceIdentity.Proofs.Action
import DeviceIdentity.SineModel

/-!
# Encoding into a buffer

Encoding asks the service once, and copies the answer to the front of the buffer if it fits.  A
model does the same with its answer, after its input has been accepted.

* `returns_encodeInto` — when encoding returns, and what the buffer holds then.
* `returns_inferInto` — the same of a model.
* `keeps_encodeInto`, `keeps_inferInto` — the service's state changes by the service's answer only.
-/

namespace DeviceIdentity

open DeviceIdentity.Action (Keeps Returns)

variable {σ : Type} {service : SecureService σ} {format : EncodeFormat}

lemma SignedValue.returns_encodeInto {id : KeyId} {value : Single} {p p' : σ × Bytes} {n : Nat} :
    (encodeInto service id value format).Returns p n p' ↔
      (∃ slot, KeyTable.slot id = .ok slot) ∧
        ∃ encoded s', (service.encodeValue id value format).Returns p.1 encoded s' ∧
          encoded.length ≤ p.2.length ∧ n = encoded.length ∧
            p' = (s', encoded ++ p.2.drop encoded.length) := by
  constructor
  · intro h
    obtain ⟨slot, _, hfind, h⟩ := Action.returns_bind.1 h
    obtain ⟨hslot, rfl⟩ := Action.returns_ofExcept.1 hfind
    obtain ⟨encoded, _, hask, h⟩ := Action.returns_bind.1 h
    obtain ⟨s', hencode, rfl⟩ := Action.returns_within.1 hask
    obtain ⟨_, _, hget, h⟩ := Action.returns_bind.1 h
    obtain ⟨rfl, rfl⟩ := Action.returns_get.1 hget
    dsimp only at h
    split_ifs at h with hsize
    · obtain ⟨_, _, -, h⟩ := Action.returns_bind.1 h
      exact (Action.returns_fail.1 h).elim
    · obtain ⟨_, _, hcopy, h⟩ := Action.returns_bind.1 h
      obtain rfl := Action.returns_modify.1 hcopy
      obtain ⟨rfl, rfl⟩ := Action.returns_pure.1 h
      exact ⟨⟨slot, hslot⟩, encoded, s', Action.returns_mapFailure.1 hencode,
        Nat.le_of_not_lt hsize, rfl, rfl⟩
  · rintro ⟨⟨slot, hslot⟩, encoded, s', hencode, hsize, rfl, rfl⟩
    refine Action.returns_bind.2 ⟨slot, p, Action.returns_ofExcept.2 ⟨hslot, rfl⟩, ?_⟩
    refine Action.returns_bind.2 ⟨encoded, (s', p.2), ?_, ?_⟩
    · exact Action.returns_within.2 ⟨s', Action.returns_mapFailure.2 hencode, rfl⟩
    refine Action.returns_bind.2 ⟨_, _, Action.returns_get.2 ⟨rfl, rfl⟩, ?_⟩
    dsimp only
    rw [if_neg (Nat.not_lt.2 hsize)]
    exact Action.returns_bind.2
      ⟨(), _, Action.returns_modify.2 rfl, Action.returns_pure.2 ⟨rfl, rfl⟩⟩

lemma SineModel.returns_inferInto {model : SineModel} {x y : Single} {p p' : σ × Bytes} {n : Nat} :
    (model.inferInto service x format).Returns p (y, n) p' ↔
      accepts x = true ∧ y = model.output x ∧
        (SignedValue.encodeInto service KeyId.coseSign y format).Returns p n p' := by
  have hinfer : ∀ {p' : σ × Bytes} {y : Single}, (model.infer x).Returns p y p' ↔
      accepts x = true ∧ y = model.output x ∧ p = p' := by
    intro p' y
    unfold infer
    split_ifs with haccept
    · constructor
      · intro h
        obtain ⟨_, _, hlog, h⟩ := Action.returns_bind.1 h
        obtain rfl := Action.returns_log.1 hlog
        obtain ⟨rfl, rfl⟩ := Action.returns_pure.1 h
        exact ⟨haccept, rfl, rfl⟩
      · rintro ⟨-, rfl, rfl⟩
        exact Action.returns_bind.2
          ⟨(), p, Action.returns_log.2 rfl, Action.returns_pure.2 ⟨rfl, rfl⟩⟩
    · simp [haccept]
  constructor
  · intro h
    obtain ⟨answer, _, hrun, h⟩ := Action.returns_bind.1 h
    obtain ⟨haccept, rfl, rfl⟩ := hinfer.1 hrun
    obtain ⟨length, _, hencode, h⟩ := Action.returns_bind.1 h
    obtain ⟨hpair, rfl⟩ := Action.returns_pure.1 h
    obtain ⟨rfl, rfl⟩ := Prod.mk.inj hpair
    exact ⟨haccept, rfl, hencode⟩
  · rintro ⟨haccept, rfl, hencode⟩
    refine Action.returns_bind.2 ⟨_, p, hinfer.2 ⟨haccept, rfl, rfl⟩, ?_⟩
    exact Action.returns_bind.2 ⟨n, p', hencode, Action.returns_pure.2 ⟨rfl, rfl⟩⟩

/-! ## What is kept -/

section Keeps

variable {R : σ → σ → Prop} [IsPreorder σ R]

/-- The first component of a state. -/
def OnFst {τ : Type} (R : σ → σ → Prop) (p p' : σ × τ) : Prop := R p.1 p'.1

instance {τ : Type} : IsPreorder (σ × τ) (OnFst R) where
  refl p := refl_of R p.1
  trans _ _ _ h h' := trans_of R h h'

omit [IsPreorder σ R] in
lemma keeps_onFst {τ α : Type} {step : Action σ α} (h : step.Keeps R) :
    (step.onFst (τ := τ)).Keeps (OnFst R) :=
  Action.keeps_within h fun _ _ hstep => hstep

lemma SignedValue.keeps_encodeInto
    (hencode : ∀ id value format, (service.encodeValue id value format).Keeps R) (id : KeyId)
    (value : Single) (format : EncodeFormat) :
    (encodeInto service id value format).Keeps (OnFst R) := by
  refine Action.keeps_bind (Action.keeps_ofExcept _) fun _ => ?_
  refine Action.keeps_bind (keeps_onFst (Action.keeps_mapFailure _ (hencode id value format)))
    fun encoded => ?_
  refine Action.keeps_bind Action.keeps_get fun p => ?_
  dsimp only
  split_ifs
  · exact Action.keeps_bind (Action.keeps_log _ _ _) fun _ => Action.keeps_fail _
  · refine Action.keeps_bind (Action.keeps_modify fun p => refl_of R p.1) fun _ => ?_
    exact Action.keeps_pure _

lemma SineModel.keeps_inferInto
    (hencode : ∀ id value format, (service.encodeValue id value format).Keeps R)
    (model : SineModel) (x : Single) (format : EncodeFormat) :
    (model.inferInto service x format).Keeps (OnFst R) := by
  refine Action.keeps_bind ?_ fun y => ?_
  · unfold SineModel.infer
    split_ifs
    · exact Action.keeps_bind (Action.keeps_log _ _ _) fun _ => Action.keeps_pure _
    · exact Action.keeps_fail _
  · exact Action.keeps_bind (SignedValue.keeps_encodeInto hencode _ y format) fun _ =>
      Action.keeps_pure _

end Keeps

end DeviceIdentity

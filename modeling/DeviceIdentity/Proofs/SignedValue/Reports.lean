import DeviceIdentity.Proofs.Key.Table
import DeviceIdentity.Proofs.P256.Signature
import DeviceIdentity.Proofs.Partition.Reports
import DeviceIdentity.Proofs.SignedValue.Encode
import DeviceIdentity.Proofs.SignedValue.RoundTrip

/-!
# What encoding says

Encoding on the emulated partition reports that the key may not sign, and that the buffer is too
small for the octets that there are.  How many there are is told by the form alone, because every
signature has the same length.

* `encodedLength` — the number of octets of an encoded value.
* `reports_encodeInto` — what encoding reports.
* `SineModel.log_inferInto` — a model reports its answer, and then what encoding reports.
-/

namespace DeviceIdentity

open DeviceIdentity.Action (Fails Reports Returns)

namespace SignedValue

/-- How many octets an encoded value takes. -/
def encodedLength : EncodeFormat → Nat
  | .claims => 11
  | .signed => 85

lemma length_encodeValue {s s' : Partition} {id : KeyId} {value : Single} {format : EncodeFormat}
    {encoded : Bytes} (h : (Partition.encodeValue id value format).Returns s encoded s') :
    encoded.length = encodedLength format := by
  cases format with
  | claims =>
    obtain ⟨-, rfl, -⟩ := Partition.returns_encodeValue_claims.1 h
    exact length_payload value
  | signed =>
    obtain ⟨-, signature, hsign, rfl⟩ := Partition.returns_encodeValue_signed.1 h
    obtain ⟨-, stored, -, -, hmade⟩ := Partition.returns_signAny.1 hsign
    exact length_message (Ecdsa.verify_sign hmade).1

/-- What is said of a failure: that the key may not sign, or that the buffer is too small. -/
def objection (refusal : List LogRecord) (format : EncodeFormat) (size : Nat) (cause : Failure) :
    List LogRecord :=
  if cause = .signingFailed then refusal
  else if cause = .bufferTooSmall then
    [⟨.error, logTarget, "encoded payload needs " ++ toString (encodedLength format) ++
      " bytes, buffer holds " ++ toString size⟩]
  else []

lemma objection_congr {refusal : List LogRecord} {format : EncodeFormat} {size : Nat}
    {e e' : Failure} (h : e.label = e'.label) :
    objection refusal format size e = objection refusal format size e' := by
  simp only [objection, Failure.eq_signingFailed_iff, Failure.eq_bufferTooSmall_iff, h]

variable {id : KeyId} {value : Single} {format : EncodeFormat} {p : Partition × Bytes}

lemma reports_encodeInto :
    (encodeInto Partition.service id value format).Reports
      (objection (p.1.refusal id) format p.2.length) p := by
  refine Action.reports_bind (Action.reports_ofExcept fun herror => ?_) fun {_ p₁} hfind => ?_
  · rw [KeyTable.eq_of_slot_eq_error herror]
    rfl
  obtain ⟨-, rfl⟩ := Action.returns_ofExcept.1 hfind
  refine Action.reports_bind ?_ fun {encoded p₂} hask => ?_
  · exact Action.reports_within (Action.reports_mapFailure (Partition.reports_encodeValue rfl rfl))
  obtain ⟨s', hencode, rfl⟩ := Action.returns_within.1 hask
  have hlength := length_encodeValue (Action.returns_mapFailure.1 hencode)
  refine Action.reports_bind Action.reports_get fun hget => ?_
  obtain ⟨rfl, rfl⟩ := Action.returns_get.1 hget
  dsimp only
  split_ifs
  · refine Action.reports_log_fail ?_
    rw [hlength]
    rfl
  · exact Action.reports_bind (Action.reports_modify _) fun _ => Action.reports_pure _

end SignedValue

namespace SineModel

/-- The record of an answer, which is given to every input that is accepted. -/
def preface (model : SineModel) (x : Single) : List LogRecord :=
  if accepts x then
    [⟨.debug, logTarget,
      model.name ++ " inference: sin(" ++ x.text ++ ") ~ " ++ (model.output x).text⟩]
  else []

lemma log_inferInto {model : SineModel} {x : Single} {format : EncodeFormat}
    {p : Partition × Bytes} :
    let outcome := (model.inferInto Partition.service x format).run p
    outcome.log = model.preface x ++
      Action.reported (SignedValue.objection (p.1.refusal KeyId.coseSign) format p.2.length)
        outcome.result := by
  intro outcome
  simp only [outcome, inferInto]
  by_cases haccept : accepts x = true
  · have hinfer : (model.infer x).run p = ⟨.ok (model.output x), p, model.preface x⟩ := by
      rw [infer, preface, if_pos haccept, if_pos haccept]
      rfl
    have hrest : (do
        let length ← SignedValue.encodeInto Partition.service KeyId.coseSign (model.output x) format
        return (model.output x, length)).Reports
          (SignedValue.objection (p.1.refusal KeyId.coseSign) format p.2.length) p :=
      Action.reports_bind SignedValue.reports_encodeInto fun _ => Action.reports_pure _
    have hreturns : (model.infer x).Returns p (model.output x) p := by
      rw [Returns, hinfer]
      exact ⟨rfl, rfl⟩
    rw [Action.log_bind_of_returns hreturns, Action.run_bind_of_ok hreturns.1, hinfer, hrest]
  · obtain ⟨detail, hinfer⟩ : ∃ detail,
        (model.infer x).run p = ⟨.error (.invalidInput detail), p, []⟩ := by
      rw [infer, if_neg haccept]
      exact ⟨_, rfl⟩
    have hfails : (model.infer x).Fails p (.invalidInput detail) p := by
      rw [Fails, hinfer]
      exact ⟨rfl, rfl⟩
    rw [Action.log_bind_of_fails hfails, Action.run_bind_of_error hfails.1, hinfer, preface,
      if_neg haccept]
    rfl

end SineModel

end DeviceIdentity

import Mathlib.Tactic.SplitIfs
import DeviceIdentity.Device
import DeviceIdentity.Proofs.Action.Related
import DeviceIdentity.Proofs.Key.Table

/-!
# Services that look alike

Two secure services are alike when their answers differ in causes of failure alone that callers do
not see.  A service is like itself, so what holds of two such services holds of one.

* `Failure.SeenAlike` — the same cause, or two that are concealed.
* `SecureService.Alike` — the answers of two services differ in concealed causes alone.
* `KeyTable.relates_publicKey` — public keys from such services.
-/

namespace DeviceIdentity

open DeviceIdentity.Action (Ends Relates Shared)

/-! ## Causes -/

namespace Failure

/-- A cause that callers of the service do not see: neither a closed channel nor a small buffer. -/
def Concealed (e : Failure) : Prop := e ≠ transportUnavailable ∧ e ≠ bufferTooSmall

/-- The same cause, or two that callers do not see. -/
def SeenAlike (e e' : Failure) : Prop := e = e' ∨ e.Concealed ∧ e'.Concealed

lemma seenAlike_self (e : Failure) : e.SeenAlike e := .inl rfl

/-- The causes of a failed export. -/
def exportCauses : List Failure := [unknownKeyId, exportFailed, transportUnavailable]

/-- The causes of a failed encoding. -/
def encodeCauses : List Failure :=
  [unknownKeyId, signingFailed, transportUnavailable, bufferTooSmall]

/-- The causes of a failed certificate request. -/
def requestCauses : List Failure :=
  [unknownKeyId, subjectNameInvalid, encodingFailed, transportUnavailable, signingFailed,
    bufferTooSmall]

lemma Concealed.ofSigning {e : Failure} (h : e.Concealed) : e.ofSigning = signingFailed := by
  obtain ⟨htransport, hbuffer⟩ := h
  cases e <;> first | rfl | contradiction

lemma Concealed.ofExport {e : Failure} (h : e.Concealed) : e.ofExport = exportFailed := by
  obtain ⟨htransport, -⟩ := h
  cases e <;> first | rfl | contradiction

lemma ofSigning_mem (e : Failure) :
    e.ofSigning ∈ [signingFailed, transportUnavailable, bufferTooSmall] := by
  cases e <;> simp [ofSigning]

lemma ofExport_mem (e : Failure) : e.ofExport ∈ [exportFailed, transportUnavailable] := by
  cases e <;> simp [ofExport]

lemma ofEncoding_mem (e : Failure) : e.ofEncoding ∈ [encodingFailed, bufferTooSmall] := by
  cases e <;> simp [ofEncoding]

/-- Signing makes one cause of two that callers do not see. -/
lemma SeenAlike.ofSigning {e e' : Failure} (h : e.SeenAlike e') : e.ofSigning = e'.ofSigning := by
  obtain rfl | ⟨hconcealed, hconcealed'⟩ := h
  · rfl
  · rw [hconcealed.ofSigning, hconcealed'.ofSigning]

lemma SeenAlike.ofExport {e e' : Failure} (h : e.SeenAlike e') : e.ofExport = e'.ofExport := by
  obtain rfl | ⟨hconcealed, hconcealed'⟩ := h
  · rfl
  · rw [hconcealed.ofExport, hconcealed'.ofExport]

end Failure

/-! ## Services -/

/-- From related states, two services give the same answers to the calls that use a key, as far as
callers of the service can see, and an observer sees the same records. -/
structure SecureService.Alike {σ τ : Type} (R : σ → τ → Prop) (seen : LogRecord → Bool)
    (service : SecureService σ) (other : SecureService τ) : Prop where
  exportKey : ∀ id, (service.exportKey id).Relates R seen Eq Failure.SeenAlike (other.exportKey id)
  sign : ∀ id message,
    (service.sign id message).Relates R seen Eq Failure.SeenAlike (other.sign id message)
  encodeValue : ∀ id value format, (service.encodeValue id value format).Relates R seen Eq
    Failure.SeenAlike (other.encodeValue id value format)

/-- A service is like itself. -/
lemma SecureService.alike_self {σ : Type} (seen : LogRecord → Bool) (service : SecureService σ) :
    service.Alike Eq seen service where
  exportKey _ := Action.relates_self Failure.seenAlike_self
  sign _ _ := Action.relates_self Failure.seenAlike_self
  encodeValue _ _ _ := Action.relates_self Failure.seenAlike_self

/-! ## Public keys -/

section PublicKey

variable {σ τ : Type} {R : σ → τ → Prop} {seen : LogRecord → Bool} {service : SecureService σ}
  {other : SecureService τ}

/-- An identifier without a slot is refused before the service is asked. -/
lemma KeyTable.ends_slot {causes : List Failure} (h : .unknownKeyId ∈ causes) (id : KeyId) :
    Ends Eq (Shared causes) (slot id) (slot id) := by
  refine Action.ends_self fun {e} herror => ⟨rfl, ?_⟩
  rw [eq_of_slot_eq_error herror]
  exact h

lemma KeyTable.relates_publicKey (h : service.Alike R seen other) (table : KeyTable) (id : KeyId) :
    (table.publicKey service id).Relates R seen Eq (Shared Failure.exportCauses)
      (table.publicKey other id) := by
  refine Action.relates_bind_eq (Action.relates_ofExcept (ends_slot (by decide) id)) fun slot => ?_
  split_ifs
  · refine Action.relates_bind_eq ?_ fun raw => ?_
    · refine Action.relates_mapFailure (h.exportKey id) fun {e e'} hseen => ⟨hseen.ofExport, ?_⟩
      exact List.mem_cons_of_mem _ e.ofExport_mem
    · split_ifs
      · exact Action.relates_pure rfl
      · exact Action.relates_fail ⟨rfl, by decide⟩
  · exact Action.relates_fail ⟨rfl, by decide⟩

end PublicKey

end DeviceIdentity

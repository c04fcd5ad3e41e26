import DeviceIdentity.Proofs.Action.Reports
import DeviceIdentity.Proofs.Partition.Extension

/-!
# What the partition says

The emulated partition works with private keys and reports next to nothing: that a key is not
permitted to sign, that a message to sign is no sequence, and that a key is there already.  None of
this depends on what a key is, but the last two would tell something about a request body and about
derived keys.  They do not come up while the library is the only user of the partition: it offers a
key only where there is none, and signs only bodies that it has written.

* `Partition.refusal` — the record of a key that may not sign.
* `reports_signAny`, `reports_sign`, `reports_encodeValue` — this is all that using a key reports.
* `quiet_deriveKey`, `fails_deriveKey` — a key that is not there is derived without a record, and
  fails with one cause while the partition can be reached, and with another one while it cannot.
-/

namespace DeviceIdentity

namespace Partition

open DeviceIdentity.Action (Fails Quiet Reports Returns)

variable {s s' : Partition} {id : KeyId} {tells : Failure → List LogRecord}

/-! ## Using a key -/

/-- What is reported when a signature is asked for: that a key is there and may not sign. -/
def refusal (s : Partition) (id : KeyId) : List LogRecord :=
  match s.key? id with
  | some stored =>
    if stored.usage.contains KeyUsage.signHash then []
    else [⟨.warn, logTarget, "key " ++ id.text ++ " is not permitted to sign"⟩]
  | none => []

/-- Only what the key may be used for counts. -/
lemma refusal_congr (h : (s.key? id).map StoredKey.usage = (s'.key? id).map StoredKey.usage) :
    s.refusal id = s'.refusal id := by
  have hmap : ∀ s : Partition, s.refusal id =
      match (s.key? id).map StoredKey.usage with
      | some usage =>
        if usage.contains KeyUsage.signHash then []
        else [⟨.warn, logTarget, "key " ++ id.text ++ " is not permitted to sign"⟩]
      | none => [] := by
    intro s
    rw [refusal]
    cases s.key? id <;> rfl
  rw [hmap, hmap, h]

lemma reports_requireOnline (h : tells .transportUnavailable = []) :
    requireOnline.Reports tells s := by
  refine Action.reports_bind Action.reports_get fun _ => ?_
  split
  · exact Action.reports_pure ()
  · exact Action.reports_fail h

lemma quiet_exportKey : (exportKey id).Quiet s := by
  refine Action.reports_bind (reports_requireOnline rfl) fun _ => ?_
  refine Action.reports_bind Action.reports_get fun _ => ?_
  split
  · exact Action.reports_pure _
  · exact Action.reports_fail rfl

/-- Whether the signature can be made depends on the key, but nothing is said of it. -/
lemma reports_signAny {message : Bytes} (h : tells .signingFailed = refusal s id) :
    (signAny id message).Reports tells s := by
  refine Action.reports_bind Action.reports_get fun hget => ?_
  obtain ⟨rfl, rfl⟩ := Action.returns_get.1 hget
  unfold refusal at h
  split
  · next hnone => exact Action.reports_fail (by rw [h, hnone])
  · next stored hstored =>
    simp only [hstored] at h
    split_ifs at h ⊢ with husage
    · split
      · exact Action.reports_pure _
      · exact Action.reports_fail h
    · exact Action.reports_log_fail h

lemma reports_sign {message : Bytes} {n : Nat} (hbody : DerHeader.checkSequence message = .ok n)
    (hoffline : tells .transportUnavailable = []) (h : tells .signingFailed = refusal s id) :
    (sign id message).Reports tells s := by
  refine Action.reports_bind (reports_requireOnline hoffline) fun honline => ?_
  obtain ⟨-, rfl⟩ := returns_requireOnline.1 honline
  simp only [hbody]
  exact reports_signAny h

lemma reports_encodeValue {value : Single} {format : EncodeFormat}
    (hoffline : tells .transportUnavailable = []) (h : tells .signingFailed = refusal s id) :
    (encodeValue id value format).Reports tells s := by
  refine Action.reports_bind (reports_requireOnline hoffline) fun honline => ?_
  obtain ⟨-, rfl⟩ := returns_requireOnline.1 honline
  cases format with
  | claims => exact Action.reports_pure _
  | signed => exact Action.reports_bind (reports_signAny h) fun _ => Action.reports_pure _

/-! ## Deriving a key -/

lemma fails_requireOnline {e : Failure} (h : requireOnline.Fails s e s') :
    s.online = false ∧ e = .transportUnavailable := by
  rcases Action.fails_bind.1 h with h | ⟨_, _, hget, h⟩
  · exact (Action.fails_get.1 h).elim
  · obtain ⟨rfl, rfl⟩ := Action.returns_get.1 hget
    split at h
    · exact (Action.fails_pure.1 h).elim
    · next hoffline => exact ⟨eq_false_of_ne_true hoffline, (Action.fails_fail.1 h).1.symm⟩

lemma quiet_block {base part : String} : (deriver.block base part).Quiet s := by
  refine Action.reports_bind Action.reports_get fun _ => ?_
  refine Action.reports_bind ?_ fun hderive => ?_
  · refine Action.reports_bind Action.reports_get fun _ => ?_
    split_ifs
    · exact Action.reports_fail rfl
    · exact Action.reports_fail rfl
    · exact Action.reports_fail rfl
    · exact Action.reports_pure _
  · -- as many octets are derived as are asked for
    obtain ⟨-, -, -, rfl, -⟩ := returns_deriveOctets.1 hderive
    rw [if_pos (Hkdf.length_derive ..)]
    exact Action.reports_pure _

lemma fails_block {base part : String} {e : Failure} (h : (deriver.block base part).Fails s e s') :
    s.online = false ∧ e = .derivationUnavailable := by
  by_cases honline : s.online = true
  · have hreturns : (deriver.block base part).Returns s _ s := returns_block.2 ⟨honline, rfl, rfl⟩
    have hresult := hreturns.1.symm.trans h.1
    cases hresult
  · refine ⟨eq_false_of_ne_true honline, ?_⟩
    rcases Action.fails_bind.1 h with h | ⟨_, _, hget, h⟩
    · exact (Action.fails_get.1 h).elim
    obtain ⟨rfl, rfl⟩ := Action.returns_get.1 hget
    rcases Action.fails_bind.1 h with h | ⟨_, _, hderive, -⟩
    · rcases Action.fails_bind.1 h with h | ⟨_, _, hget, h⟩
      · exact (Action.fails_get.1 h).elim
      obtain ⟨rfl, rfl⟩ := Action.returns_get.1 hget
      rw [if_pos (by simp [honline])] at h
      exact (Action.fails_fail.1 h).1.symm
    · exact (honline (returns_deriveOctets.1 hderive).1).elim

lemma fails_ecPrivateKey {purpose : String} {e : Failure}
    (h : (deriver.ecPrivateKey purpose).Fails s e s') :
    s.online = false ∧ e = .derivationUnavailable := by
  rcases Action.fails_bind.1 h with hhigh | ⟨_, _, hhigh, hrest⟩
  · exact fails_block hhigh
  · obtain ⟨-, -, rfl⟩ := returns_block.1 hhigh
    rcases Action.fails_bind.1 hrest with hlow | ⟨_, _, -, hpure⟩
    · exact fails_block hlow
    · exact (Action.fails_pure.1 hpure).elim

section Derive

variable {purpose : String} {usage : KeyUsage} (hfree : s.key? id = none)

include hfree

lemma quiet_importKey {scalar : Bytes} : (importKey id usage scalar).Quiet s := by
  refine Action.reports_bind (reports_requireOnline rfl) fun honline => ?_
  obtain ⟨-, rfl⟩ := returns_requireOnline.1 honline
  split
  · exact Action.reports_fail rfl
  · refine Action.reports_bind Action.reports_get fun hget => ?_
    obtain ⟨rfl, rfl⟩ := Action.returns_get.1 hget
    rw [hfree]
    exact Action.reports_modify _

lemma quiet_deriveKey : (service.deriveKey id purpose usage).Quiet s := by
  refine Action.reports_bind ?_ fun hderive => ?_
  · refine Action.reports_bind quiet_block fun _ => ?_
    exact Action.reports_bind quiet_block fun _ => Action.reports_pure _
  · obtain ⟨-, rfl, rfl⟩ := returns_ecPrivateKey.1 hderive
    exact quiet_importKey hfree

/-- Why a key cannot be had is told by the reach of the partition. -/
lemma fails_deriveKey {e : Failure} (h : (service.deriveKey id purpose usage).Fails s e s') :
    e = if s.online then .importFailed else .derivationUnavailable := by
  rcases Action.fails_bind.1 h with h | ⟨_, _, hderive, h⟩
  · obtain ⟨hoffline, rfl⟩ := fails_ecPrivateKey h
    rw [hoffline]
    rfl
  · obtain ⟨honline, rfl, rfl⟩ := returns_ecPrivateKey.1 hderive
    rw [if_pos honline]
    rcases Action.fails_bind.1 h with h | ⟨_, _, hrequire, h⟩
    · rw [(fails_requireOnline h).1] at honline
      cases honline
    obtain ⟨-, rfl⟩ := returns_requireOnline.1 hrequire
    split at h
    · exact (Action.fails_fail.1 h).1.symm
    · rcases Action.fails_bind.1 h with h | ⟨_, _, hget, h⟩
      · exact (Action.fails_get.1 h).elim
      obtain ⟨rfl, rfl⟩ := Action.returns_get.1 hget
      rw [hfree] at h
      exact (Action.fails_modify.1 h).elim

end Derive

end Partition

end DeviceIdentity

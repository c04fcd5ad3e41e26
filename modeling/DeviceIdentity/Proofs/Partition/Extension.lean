import DeviceIdentity.Proofs.Partition.Calls

/-!
# The partition only grows

Whatever is asked of the partition, and whether it is done or not, the hardware key and the label
suffix stay as they are, and a key that is stored stays stored.

* `Partition.Call` — what can be asked of a partition that is shared.
* `Partition.Extends` — a later state holds all that an earlier one holds.
* `keeps_importKey` — storing a key adds at most one, under a free identifier.
* **`keeps_call`** — every call extends the partition.
-/

namespace DeviceIdentity

namespace Partition

open DeviceIdentity.Action (Keeps)

/-! ## Calls -/

/-- What a user of the partition can ask of it. -/
inductive Call where
  | setOnline (online : Bool)
  | deriveOctets (label : Bytes) (length : Nat)
  | importKey (id : KeyId) (usage : KeyUsage) (scalar : Bytes)
  | deriveKey (id : KeyId) (purpose : String) (usage : KeyUsage)
  | exportKey (id : KeyId)
  | sign (id : KeyId) (message : Bytes)
  | encodeValue (id : KeyId) (value : Single) (format : EncodeFormat)
  | deviceUuid

/-- What the partition answers. -/
inductive Answer where
  | done
  | octets (octets : Bytes)
  | text (text : String)

namespace Call

/-- Asks the partition. -/
def run : Call → Action Partition Answer
  | setOnline online => do
    Action.modify (Partition.setOnline online)
    return .done
  | deriveOctets label length => return .octets (← service.deriveOctets label length)
  | importKey id usage scalar => do
    service.importKey id usage scalar
    return .done
  | deriveKey id purpose usage => do
    service.deriveKey id purpose usage
    return .done
  | exportKey id => return .octets (← service.exportKey id)
  | sign id message => return .octets (← service.sign id message)
  | encodeValue id value format => return .octets (← service.encodeValue id value format)
  | deviceUuid => return .text (← service.deviceUuid)

end Call

/-! ## Extension -/

/-- The later state derives the same octets and holds every key of the earlier one. -/
structure Extends (s s' : Partition) : Prop where
  hardwareKey : s'.hardwareKey = s.hardwareKey
  labelSuffix : s'.labelSuffix = s.labelSuffix
  key? : ∀ {id : KeyId} {key : StoredKey}, s.key? id = some key → s'.key? id = some key

instance : IsPreorder Partition Extends where
  refl _ := ⟨rfl, rfl, fun h => h⟩
  trans _ _ _ h h' :=
    ⟨h'.hardwareKey.trans h.hardwareKey, h'.labelSuffix.trans h.labelSuffix,
      fun hkey => h'.key? (h.key? hkey)⟩

lemma extends_refl (s : Partition) : Extends s s := refl_of Extends s

lemma extends_store {s : Partition} {id : KeyId} (hfree : s.key? id = none) (key : StoredKey) :
    Extends s (s.store id key) where
  hardwareKey := rfl
  labelSuffix := rfl
  key? := by
    intro other stored hstored
    have hne : other ≠ id := by
      rintro rfl
      rw [hfree] at hstored
      cases hstored
    rw [key?_store_of_ne s id key hne]
    exact hstored

lemma Extends.derivedScalar {s s' : Partition} (h : Extends s s') (purpose : String) :
    s'.derivedScalar purpose = s.derivedScalar purpose := by
  simp only [Partition.derivedScalar, derived, h.hardwareKey, h.labelSuffix]

/-! ## Calls that change nothing -/

/-- A step that changes nothing extends the partition. -/
lemma keeps_of_eq {α : Type} {step : Action Partition α} (h : step.Keeps Eq) :
    step.Keeps Extends := by
  intro s
  rw [← h s]
  exact extends_refl s

lemma keeps_requireOnline : requireOnline.Keeps Eq := by
  refine Action.keeps_bind Action.keeps_get fun s => ?_
  split
  · exact Action.keeps_pure ()
  · exact Action.keeps_fail _

lemma keeps_deriveOctets (label : Bytes) (length : Nat) : (deriveOctets label length).Keeps Eq := by
  refine Action.keeps_bind Action.keeps_get fun s => ?_
  split_ifs
  · exact Action.keeps_fail _
  · exact Action.keeps_fail _
  · exact Action.keeps_fail _
  · exact Action.keeps_pure _

lemma keeps_block (base part : String) : (deriver.block base part).Keeps Eq := by
  refine Action.keeps_bind Action.keeps_get fun s => ?_
  refine Action.keeps_bind (keeps_deriveOctets _ _) fun octets => ?_
  split_ifs
  · exact Action.keeps_pure _
  · exact Action.keeps_bind (Action.keeps_log _ _ _) fun _ => Action.keeps_fail _

lemma keeps_ecPrivateKey (purpose : String) : (deriver.ecPrivateKey purpose).Keeps Eq :=
  Action.keeps_bind (keeps_block _ _) fun _ =>
    Action.keeps_bind (keeps_block _ _) fun _ => Action.keeps_pure _

lemma keeps_uuid : deriver.uuid.Keeps Eq := by
  refine Action.keeps_bind ?_ fun _ => Action.keeps_pure _
  exact Action.keeps_bind (keeps_block _ _) fun _ => Action.keeps_pure _

lemma keeps_exportKey (id : KeyId) : (exportKey id).Keeps Eq := by
  refine Action.keeps_bind keeps_requireOnline fun _ => ?_
  refine Action.keeps_bind Action.keeps_get fun s => ?_
  split
  · exact Action.keeps_pure _
  · exact Action.keeps_fail _

lemma keeps_signAny (id : KeyId) (message : Bytes) : (signAny id message).Keeps Eq := by
  refine Action.keeps_bind Action.keeps_get fun s => ?_
  split
  · exact Action.keeps_fail _
  · split_ifs
    · split
      · exact Action.keeps_pure _
      · exact Action.keeps_fail _
    · exact Action.keeps_bind (Action.keeps_log _ _ _) fun _ => Action.keeps_fail _

lemma keeps_sign (id : KeyId) (message : Bytes) : (sign id message).Keeps Eq := by
  refine Action.keeps_bind keeps_requireOnline fun _ => ?_
  split
  · exact keeps_signAny id message
  · exact Action.keeps_bind (Action.keeps_log _ _ _) fun _ => Action.keeps_fail _

lemma keeps_encodeValue (id : KeyId) (value : Single) (format : EncodeFormat) :
    (encodeValue id value format).Keeps Eq := by
  refine Action.keeps_bind keeps_requireOnline fun _ => ?_
  cases format with
  | claims => exact Action.keeps_pure _
  | signed => exact Action.keeps_bind (keeps_signAny _ _) fun _ => Action.keeps_pure _

/-! ## Calls that change the partition -/

lemma allOrNothing_importKey (id : KeyId) (usage : KeyUsage) (scalar : Bytes) :
    (importKey id usage scalar).AllOrNothing := by
  refine Action.allOrNothing_bind keeps_requireOnline fun _ => ?_
  split
  · exact (Action.keeps_fail _).allOrNothing
  · refine Action.allOrNothing_bind Action.keeps_get fun s => ?_
    split
    · exact Action.allOrNothing_modify _
    · split_ifs
      · exact (Action.keeps_log _ _ _).allOrNothing
      · exact (Action.keeps_bind (Action.keeps_log _ _ _) fun _ =>
          Action.keeps_fail _).allOrNothing

/-- Importing changes nothing, or stores the key that was read under a free identifier. -/
lemma importKey_state (s : Partition) (id : KeyId) (usage : KeyUsage) (scalar : Bytes) :
    ((importKey id usage scalar).run s).state = s ∨
      ∃ key, Ecdsa.PrivateKey.ofOctets? scalar = some key ∧ s.key? id = none ∧
        ((importKey id usage scalar).run s).state = s.store id ⟨key, usage⟩ := by
  rcases (importKey id usage scalar).returns_or_fails s with ⟨u, hreturns⟩ | ⟨e, hfails⟩
  · obtain ⟨-, key, hkey, ⟨hfree, hstate⟩ | ⟨-, hstate⟩⟩ := returns_importKey.1 hreturns
    · exact .inr ⟨key, hkey, hfree, hstate⟩
    · exact .inl hstate
  · exact .inl (allOrNothing_importKey id usage scalar hfails)

/-- Deriving a key changes nothing, or stores the key derived under a free identifier. -/
lemma deriveKey_state (s : Partition) (id : KeyId) (purpose : String) (usage : KeyUsage) :
    ((service.deriveKey id purpose usage).run s).state = s ∨
      ∃ key, Ecdsa.PrivateKey.ofOctets? (s.derivedScalar purpose) = some key ∧ s.key? id = none ∧
        ((service.deriveKey id purpose usage).run s).state = s.store id ⟨key, usage⟩ := by
  have hkeep : s = ((deriver.ecPrivateKey purpose).run s).state := keeps_ecPrivateKey purpose s
  have hunfold : service.deriveKey id purpose usage =
    deriver.ecPrivateKey purpose >>= fun scalar => importKey id usage scalar := rfl
  rw [hunfold]
  cases hresult : ((deriver.ecPrivateKey purpose).run s).result with
  | ok scalar =>
    have hderived := (returns_ecPrivateKey.1 (Action.returns_of_result hresult)).2.1
    rw [Action.run_bind_of_ok hresult, ← hkeep, hderived]
    exact importKey_state s id usage _
  | error e =>
    rw [Action.run_bind_of_error hresult]
    exact .inl hkeep.symm

lemma keeps_importKey (id : KeyId) (usage : KeyUsage) (scalar : Bytes) :
    (importKey id usage scalar).Keeps Extends := by
  intro s
  rcases importKey_state s id usage scalar with hstate | ⟨key, -, hfree, hstate⟩
  · rw [hstate]
    exact extends_refl s
  · rw [hstate]
    exact extends_store hfree ⟨key, usage⟩

lemma keeps_deriveKey (id : KeyId) (purpose : String) (usage : KeyUsage) :
    (service.deriveKey id purpose usage).Keeps Extends :=
  Action.keeps_bind (keeps_of_eq (keeps_ecPrivateKey purpose)) fun scalar =>
    keeps_importKey id usage scalar

lemma keeps_deviceUuid : deviceUuid.Keeps Extends := by
  refine Action.keeps_bind (keeps_of_eq keeps_requireOnline) fun _ => ?_
  refine Action.keeps_bind Action.keeps_get fun s => ?_
  split
  · exact Action.keeps_pure _
  · refine Action.keeps_bind (keeps_of_eq keeps_uuid) fun uuid => ?_
    refine Action.keeps_bind ?_ fun _ => Action.keeps_pure _
    exact Action.keeps_modify fun s => ⟨rfl, rfl, fun h => h⟩

/-- **Every call extends the partition**, whether it is done or fails. -/
lemma keeps_call (call : Call) : call.run.Keeps Extends := by
  cases call with
  | setOnline online =>
    refine Action.keeps_bind ?_ fun _ => Action.keeps_pure _
    exact Action.keeps_modify fun s => ⟨rfl, rfl, fun h => h⟩
  | deriveOctets label length =>
    exact Action.keeps_bind (keeps_of_eq (keeps_deriveOctets label length)) fun _ =>
      Action.keeps_pure _
  | importKey id usage scalar =>
    exact Action.keeps_bind (keeps_importKey id usage scalar) fun _ => Action.keeps_pure _
  | deriveKey id purpose usage =>
    exact Action.keeps_bind (keeps_deriveKey id purpose usage) fun _ => Action.keeps_pure _
  | exportKey id =>
    exact Action.keeps_bind (keeps_of_eq (keeps_exportKey id)) fun _ => Action.keeps_pure _
  | sign id message =>
    exact Action.keeps_bind (keeps_of_eq (keeps_sign id message)) fun _ => Action.keeps_pure _
  | encodeValue id value format =>
    exact Action.keeps_bind (keeps_of_eq (keeps_encodeValue id value format)) fun _ =>
      Action.keeps_pure _
  | deviceUuid => exact Action.keeps_bind keeps_deviceUuid fun _ => Action.keeps_pure _

end Partition

end DeviceIdentity

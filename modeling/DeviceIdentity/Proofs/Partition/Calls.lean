import Mathlib.Tactic.SplitIfs
import DeviceIdentity.Partition
import DeviceIdentity.Proofs.Action

/-!
# What the calls of the partition do

Each call of the emulated partition is described once: from which states it returns, with which
value, and in which state.  Proofs about the partition use these descriptions and do not open the
calls again.

* `Deriver.returns_block_iff` — a block is what is derived for its label, and has its length.
* `Partition.store` — the partition with one more key.
* `returns_importKey` — a key is stored under a free identifier, or is there already.
* `returns_exportKey`, `returns_sign`, `returns_encodeValue` — the calls that only use a key leave
  the partition as it is.
* `returns_deriveKey` — deriving a key is deriving its octets and importing them.
-/

namespace DeviceIdentity

/-- A hardware key. -/
def Device.ones : Bytes := List.replicate 32 1

/-- A block is what is derived for its label, if it has the length asked for. -/
lemma Deriver.returns_block_iff {σ : Type} {d : Deriver σ} {base part : String} {s s' : σ}
    {octets : Bytes} :
    (d.block base part).Returns s octets s' ↔
      (d.deriveOctets (Bytes.ofText (label base part (d.labelSuffix s))) blockLength).Returns s
        octets s' ∧ octets.length = blockLength := by
  simp only [block, Action.returns_bind, Action.returns_get]
  constructor
  · rintro ⟨_, _, ⟨rfl, rfl⟩, derived, _, hderive, h⟩
    split_ifs at h with hlength
    · obtain ⟨rfl, rfl⟩ := Action.returns_pure.1 h
      exact ⟨hderive, hlength⟩
    · obtain ⟨_, _, -, h⟩ := Action.returns_bind.1 h
      exact (Action.returns_fail.1 h).elim
  · rintro ⟨hderive, hlength⟩
    refine ⟨s, s, ⟨rfl, rfl⟩, octets, s', hderive, ?_⟩
    rw [if_pos hlength]
    exact Action.returns_pure.2 ⟨rfl, rfl⟩

namespace Partition

open DeviceIdentity.Action (Returns)

variable {s s' : Partition} {id : KeyId}

/-! ## Storing a key -/

/-- The partition with one more key. -/
def store (s : Partition) (id : KeyId) (key : StoredKey) : Partition :=
  { s with keys := (id, key) :: s.keys }

section Store

variable (s) (id) (key : StoredKey)

@[simp] lemma key?_store_self : (s.store id key).key? id = some key := by
  simp [store, key?]

lemma key?_store_of_ne {other : KeyId} (h : other ≠ id) :
    (s.store id key).key? other = s.key? other := by
  have hne : (other == id) = false := beq_false_of_ne h
  simp [store, key?, List.lookup_cons, hne]

end Store

/-! ## The calls -/

@[simp] lemma returns_requireOnline {u : Unit} :
    requireOnline.Returns s u s' ↔ s.online = true ∧ s = s' := by
  simp only [requireOnline, Action.returns_bind, Action.returns_get]
  constructor
  · rintro ⟨_, _, ⟨rfl, rfl⟩, h⟩
    split at h
    · next honline => exact ⟨honline, (Action.returns_pure.1 h).2⟩
    · exact (Action.returns_fail.1 h).elim
  · rintro ⟨honline, rfl⟩
    refine ⟨s, s, ⟨rfl, rfl⟩, ?_⟩
    rw [if_pos honline]
    exact Action.returns_pure.2 ⟨rfl, rfl⟩

lemma returns_deriveOctets {label bs : Bytes} {length : Nat} :
    (deriveOctets label length).Returns s bs s' ↔
      s.online = true ∧ minDerivation ≤ length ∧ length ≤ maxDerivation ∧
        bs = Hkdf.derive salt s.hardwareKey label length ∧ s' = s := by
  simp only [deriveOctets, Action.returns_bind, Action.returns_get]
  constructor
  · rintro ⟨_, _, ⟨rfl, rfl⟩, h⟩
    split_ifs at h with honline hmin hmax
    · exact (Action.returns_fail.1 h).elim
    · exact (Action.returns_fail.1 h).elim
    · exact (Action.returns_fail.1 h).elim
    · obtain ⟨rfl, rfl⟩ := Action.returns_pure.1 h
      exact ⟨by simpa using honline, Nat.le_of_not_lt hmin, Nat.le_of_not_lt hmax, rfl, rfl⟩
  · rintro ⟨honline, hmin, hmax, rfl, rfl⟩
    refine ⟨s', s', ⟨rfl, rfl⟩, ?_⟩
    rw [if_neg (by simp [honline]), if_neg (Nat.not_lt.2 hmin), if_neg (Nat.not_lt.2 hmax)]
    exact Action.returns_pure.2 ⟨rfl, rfl⟩

/-- A key is stored under a free identifier; under a taken one, it is there already. -/
lemma returns_importKey {usage : KeyUsage} {scalar : Bytes} {u : Unit} :
    (importKey id usage scalar).Returns s u s' ↔
      s.online = true ∧ ∃ key, Ecdsa.PrivateKey.ofOctets? scalar = some key ∧
        (s.key? id = none ∧ s' = s.store id ⟨key, usage⟩ ∨
          s.key? id = some ⟨key, usage⟩ ∧ s' = s) := by
  simp only [importKey, Action.returns_bind, returns_requireOnline]
  constructor
  · rintro ⟨_, _, ⟨honline, rfl⟩, h⟩
    refine ⟨honline, ?_⟩
    split at h
    · exact (Action.returns_fail.1 h).elim
    · next key hkey =>
      refine ⟨key, hkey, ?_⟩
      obtain ⟨_, _, hget, h⟩ := Action.returns_bind.1 h
      obtain ⟨rfl, rfl⟩ := Action.returns_get.1 hget
      split at h
      · next hfree => exact .inl ⟨hfree, (Action.returns_modify.1 h).symm⟩
      · next stored htaken =>
        split_ifs at h with hsame
        · refine .inr ⟨?_, (Action.returns_log.1 h).symm⟩
          rw [htaken, hsame]
        · obtain ⟨_, _, -, h⟩ := Action.returns_bind.1 h
          exact (Action.returns_fail.1 h).elim
  · rintro ⟨honline, key, hkey, h⟩
    refine ⟨(), s, ⟨honline, rfl⟩, ?_⟩
    rw [hkey]
    refine Action.returns_bind.2 ⟨s, s, Action.returns_get.2 ⟨rfl, rfl⟩, ?_⟩
    rcases h with ⟨hfree, rfl⟩ | ⟨hsame, rfl⟩
    · rw [hfree]
      exact Action.returns_modify.2 rfl
    · rw [hsame]
      simp only [if_true]
      exact Action.returns_log.2 rfl

lemma returns_exportKey {raw : Bytes} :
    (exportKey id).Returns s raw s' ↔
      s.online = true ∧ s' = s ∧ ∃ stored, s.key? id = some stored ∧
        raw = stored.privateKey.point.encode := by
  simp only [exportKey, Action.returns_bind, returns_requireOnline, Action.returns_get]
  constructor
  · rintro ⟨_, _, ⟨honline, rfl⟩, _, _, ⟨rfl, rfl⟩, h⟩
    split at h
    · next stored hstored =>
      obtain ⟨rfl, rfl⟩ := Action.returns_pure.1 h
      exact ⟨honline, rfl, stored, hstored, rfl⟩
    · exact (Action.returns_fail.1 h).elim
  · rintro ⟨honline, rfl, stored, hstored, rfl⟩
    refine ⟨(), s', ⟨honline, rfl⟩, s', s', ⟨rfl, rfl⟩, ?_⟩
    rw [hstored]
    exact Action.returns_pure.2 ⟨rfl, rfl⟩

/-- A signature is made by a stored key that may sign. -/
lemma returns_signAny {message signature : Bytes} :
    (signAny id message).Returns s signature s' ↔
      s' = s ∧ ∃ stored, s.key? id = some stored ∧
        stored.usage.contains KeyUsage.signHash = true ∧
        Ecdsa.sign stored.privateKey message = some signature := by
  simp only [signAny, Action.returns_bind, Action.returns_get]
  constructor
  · rintro ⟨_, _, ⟨rfl, rfl⟩, h⟩
    split at h
    · exact (Action.returns_fail.1 h).elim
    · next stored hstored =>
      split_ifs at h with husage
      · split at h
        · next made hmade =>
          obtain ⟨rfl, rfl⟩ := Action.returns_pure.1 h
          exact ⟨rfl, stored, hstored, husage, hmade⟩
        · exact (Action.returns_fail.1 h).elim
      · obtain ⟨_, _, -, h⟩ := Action.returns_bind.1 h
        exact (Action.returns_fail.1 h).elim
  · rintro ⟨rfl, stored, hstored, husage, hmade⟩
    refine ⟨s', s', ⟨rfl, rfl⟩, ?_⟩
    simp only [hstored, if_pos husage, hmade]
    exact Action.returns_pure.2 ⟨rfl, rfl⟩

lemma returns_sign {message signature : Bytes} :
    (sign id message).Returns s signature s' ↔
      s.online = true ∧ (∃ n, DerHeader.checkSequence message = .ok n) ∧
        (signAny id message).Returns s signature s' := by
  simp only [sign, Action.returns_bind, returns_requireOnline]
  constructor
  · rintro ⟨_, _, ⟨honline, rfl⟩, h⟩
    split at h
    · next n hn => exact ⟨honline, ⟨n, hn⟩, h⟩
    · obtain ⟨_, _, -, h⟩ := Action.returns_bind.1 h
      exact (Action.returns_fail.1 h).elim
  · rintro ⟨honline, ⟨n, hn⟩, h⟩
    refine ⟨(), s, ⟨honline, rfl⟩, ?_⟩
    rw [hn]
    exact h

/-- Unsigned, a value is encoded as its claim map. -/
lemma returns_encodeValue_claims {value : Single} {encoded : Bytes} :
    (encodeValue id value .claims).Returns s encoded s' ↔
      s.online = true ∧ encoded = SignedValue.payload value ∧ s' = s := by
  simp only [encodeValue, Action.returns_bind, returns_requireOnline, Action.returns_pure]
  constructor
  · rintro ⟨_, _, ⟨honline, rfl⟩, rfl, rfl⟩
    exact ⟨honline, rfl, rfl⟩
  · rintro ⟨honline, rfl, rfl⟩
    exact ⟨(), s', ⟨honline, rfl⟩, rfl, rfl⟩

/-- A value is signed over the octets that stand for it. -/
lemma returns_encodeValue_signed {value : Single} {encoded : Bytes} :
    (encodeValue id value .signed).Returns s encoded s' ↔
      s.online = true ∧ ∃ signature,
        (signAny id (SignedValue.toBeSigned (SignedValue.payload value))).Returns s signature s' ∧
          encoded = SignedValue.message (SignedValue.payload value) signature := by
  simp only [encodeValue, SignedValue.sign1, Action.returns_bind, returns_requireOnline,
    Action.returns_pure]
  constructor
  · rintro ⟨_, _, ⟨honline, rfl⟩, signature, _, hsign, rfl, rfl⟩
    exact ⟨honline, signature, hsign, rfl⟩
  · rintro ⟨honline, signature, hsign, rfl⟩
    exact ⟨(), s, ⟨honline, rfl⟩, signature, s', hsign, rfl, rfl⟩

/-! ## Deriving a key -/

/-- The octets that the partition derives for a part of a purpose. -/
def derived (s : Partition) (base part : String) : Bytes :=
  Hkdf.derive salt s.hardwareKey (Bytes.ofText (Deriver.label base part s.labelSuffix))
    Deriver.blockLength

/-- The octets of the private key for a purpose. -/
def derivedScalar (s : Partition) (purpose : String) : Bytes :=
  s.derived purpose Deriver.highHalf ++ s.derived purpose Deriver.lowHalf

@[simp] lemma length_derived (s : Partition) (base part : String) :
    (s.derived base part).length = Deriver.blockLength :=
  Hkdf.length_derive ..

lemma returns_block {base part : String} {bs : Bytes} :
    (deriver.block base part).Returns s bs s' ↔
      s.online = true ∧ bs = s.derived base part ∧ s' = s := by
  rw [Deriver.returns_block_iff]
  constructor
  · rintro ⟨hderive, -⟩
    obtain ⟨honline, -, -, rfl, rfl⟩ := returns_deriveOctets.1 hderive
    exact ⟨honline, rfl, rfl⟩
  · rintro ⟨honline, rfl, rfl⟩
    exact ⟨returns_deriveOctets.2 ⟨honline, by decide, by decide, rfl, rfl⟩,
      length_derived s' base part⟩

lemma returns_ecPrivateKey {purpose : String} {scalar : Bytes} :
    (deriver.ecPrivateKey purpose).Returns s scalar s' ↔
      s.online = true ∧ scalar = s.derivedScalar purpose ∧ s' = s := by
  simp only [Deriver.ecPrivateKey, Action.returns_bind, returns_block, Action.returns_pure]
  constructor
  · rintro ⟨_, _, ⟨honline, rfl, rfl⟩, _, _, ⟨-, rfl, rfl⟩, rfl, rfl⟩
    exact ⟨honline, rfl, rfl⟩
  · rintro ⟨honline, rfl, rfl⟩
    exact ⟨_, s', ⟨honline, rfl, rfl⟩, _, s', ⟨honline, rfl, rfl⟩, rfl, rfl⟩

/-- Deriving a key is importing the octets derived for its purpose. -/
lemma returns_deriveKey {purpose : String} {usage : KeyUsage} {u : Unit} :
    (service.deriveKey id purpose usage).Returns s u s' ↔
      (importKey id usage (s.derivedScalar purpose)).Returns s u s' := by
  change (deriver.ecPrivateKey purpose >>= fun scalar => importKey id usage scalar).Returns s u s'
    ↔ _
  simp only [Action.returns_bind, returns_ecPrivateKey]
  constructor
  · rintro ⟨_, _, ⟨-, rfl, rfl⟩, h⟩
    exact h
  · intro h
    exact ⟨_, s, ⟨(returns_importKey.1 h).1, rfl, rfl⟩, h⟩

end Partition

end DeviceIdentity

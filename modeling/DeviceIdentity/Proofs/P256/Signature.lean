import DeviceIdentity.P256.Ecdsa
import DeviceIdentity.Proofs.Bytes
import DeviceIdentity.Proofs.Hash.Computation
import DeviceIdentity.Proofs.P256.Group

/-!
# Signatures verify

A private key, its public key as octets, and its signatures belong together: octets of a public key
read back as the point, and a signature made with the key verifies under that point.

* `PrivateKey.decode?_encode_point` — the public key survives being written and read.
* `verify_pair?` — the pair that a nonce gives verifies, because the two factors that the check
  computes add up to the nonce.
* **`verify_sign`** — every signature that is made has 64 octets, reads as a pair, and verifies.
* `signAtOnce`, `sign_eq` — a signature in a form in which a proof can compute it.
-/

namespace DeviceIdentity

namespace Ecdsa

open P256
open P256.Point (ofGroup)

/-! ## Scalars as octets -/

lemma toNat_scalarOctets (k : Scalar) : Bytes.toNat (scalarOctets k) = k.val := by
  rw [scalarOctets, Bytes.toNat_ofNat]
  exact Nat.mod_eq_of_lt (scalar_lt k)

@[simp] lemma length_scalarOctets (k : Scalar) : (scalarOctets k).length = 32 :=
  Bytes.length_ofNat 32 k.val

lemma scalar?_scalarOctets {k : Scalar} (h : k ≠ 0) : scalar? (scalarOctets k) = some k := by
  have hval : k.val ≠ 0 := fun h0 => h (Fin.ext h0)
  rw [scalar?]
  simp only [toNat_scalarOctets, length_scalarOctets]
  rw [if_pos ⟨trivial, hval, k.isLt⟩, Fin.ofNat_val_eq_self]

lemma scalar?_eq_some {octets : Bytes} {k : Scalar} (h : scalar? octets = some k) :
    k ≠ 0 ∧ k.val = Bytes.toNat octets ∧ octets.length = 32 := by
  simp only [scalar?] at h
  split at h
  · next hrange =>
    obtain rfl := Option.some.inj h
    have hval : (Fin.ofNat P256.n (Bytes.toNat octets)).val = Bytes.toNat octets := by
      rw [Fin.val_ofNat, Nat.mod_eq_of_lt hrange.2.2]
    refine ⟨?_, hval, hrange.1⟩
    intro h0
    rw [h0] at hval
    exact hrange.2.1 hval.symm
  · exact absurd h (by simp)

/-! ## Public keys -/

namespace PrivateKey

lemma point_eq (key : PrivateKey) : key.point = ofGroup (key.scalar.val • base) := by
  rw [point, ← ofGroup_base, multiply_ofGroup]

/-- A private key is below the order and not zero, so its public key is not infinity. -/
lemma nsmul_base_ne_zero (key : PrivateKey) : key.scalar.val • base ≠ 0 := by
  rw [ne_eq, nsmul_base_eq_zero_iff]
  intro hdvd
  have hzero : key.scalar.val = 0 := Nat.eq_zero_of_dvd_of_lt hdvd key.scalar.isLt
  exact key.ne_zero (Fin.ext hzero)

lemma exists_point (key : PrivateKey) :
    ∃ x y, key.point = .affine x y ∧ onCurve x y = true := by
  obtain ⟨x, y, h⟩ := exists_coordinates key.nsmul_base_ne_zero
  exact ⟨x, y, by rw [point_eq, h], onCurve_of_ofGroup h⟩

lemma coordinate?_ofNat (x : Coordinate) : coordinate? (Bytes.ofNat 32 x.val) = some x := by
  have hlt : x.val < 256 ^ 32 := lt_trans x.isLt (by decide)
  rw [coordinate?]
  simp only [Bytes.toNat_ofNat, Bytes.length_ofNat, Nat.mod_eq_of_lt hlt]
  rw [if_pos ⟨trivial, x.isLt⟩, Fin.ofNat_val_eq_self]

/-- A public key as octets: the mark of both coordinates, and 64 octets. -/
lemma encode_point (key : PrivateKey) :
    key.point.encode.head? = some 0x04 ∧ key.point.encode.length = 65 := by
  obtain ⟨x, y, h, -⟩ := key.exists_point
  rw [h, Point.encode]
  refine ⟨rfl, ?_⟩
  rw [List.length_cons, List.length_append, Bytes.length_ofNat, Bytes.length_ofNat]

/-- **A public key survives being written and read.** -/
theorem decode?_encode_point (key : PrivateKey) :
    Point.decode? key.point.encode = some key.point := by
  obtain ⟨x, y, h, hcurve⟩ := key.exists_point
  have htake : (Bytes.ofNat 32 x.val ++ Bytes.ofNat 32 y.val).take 32 = Bytes.ofNat 32 x.val :=
    List.take_left' (Bytes.length_ofNat 32 x.val)
  have hdrop : (Bytes.ofNat 32 x.val ++ Bytes.ofNat 32 y.val).drop 32 = Bytes.ofNat 32 y.val :=
    List.drop_left' (Bytes.length_ofNat 32 x.val)
  rw [h, Point.encode, Point.decode?, if_pos rfl, htake, hdrop, coordinate?_ofNat,
    coordinate?_ofNat]
  simp only [Option.bind_eq_bind, Option.bind_some, if_pos hcurve]

lemma ofOctets?_eq_some_iff {octets : Bytes} {key : PrivateKey} :
    ofOctets? octets = some key ↔ scalarOctets key.scalar = octets := by
  constructor
  · intro h
    obtain ⟨k, hk, hkey⟩ := Option.bind_eq_some_iff.1 h
    obtain ⟨hne, hval, hlength⟩ := scalar?_eq_some hk
    rw [dif_pos hne] at hkey
    obtain rfl := Option.some.inj hkey
    refine Bytes.eq_of_toNat_eq (by rw [length_scalarOctets, hlength]) ?_
    rw [toNat_scalarOctets, hval]
  · rintro rfl
    rw [ofOctets?, scalar?_scalarOctets key.ne_zero, Option.bind_some, dif_pos key.ne_zero]

lemma eq_of_scalarOctets {key key' : PrivateKey}
    (h : scalarOctets key.scalar = scalarOctets key'.scalar) : key = key' := by
  have hkey := ofOctets?_eq_some_iff.2 h
  have hkey' := ofOctets?_eq_some_iff.2 (Eq.refl (scalarOctets key'.scalar))
  exact Option.some.inj (hkey.symm.trans hkey')

end PrivateKey

/-! ## Signatures -/

/-- The check of a pair compares its first number with the first coordinate of a sum of points. -/
lemma verify_of_combine {holder : Point} {message : Bytes} {r s : Scalar} {x y : Coordinate}
    (h : combine (messageNumber message * P256.inverse s) (r * P256.inverse s) holder =
      .affine x y) : verify holder message (r, s) = decide (Fin.ofNat P256.n x.val = r) := by
  unfold verify
  simp only [h]

/-- The pair that a nonce gives verifies under the public key. -/
lemma verify_pair? {key : PrivateKey} {message : Bytes} {nonce : Scalar} {pair : Scalar × Scalar}
    (hnonce : nonce ≠ 0) (h : pair? key message nonce = some pair) :
    pair.1 ≠ 0 ∧ pair.2 ≠ 0 ∧ verify key.point message pair = true := by
  rw [pair?, ← ofGroup_base, multiply_ofGroup] at h
  split at h
  · cases h
  · next x y hpoint =>
    simp only at h
    split_ifs at h with hzero
    obtain rfl := Option.some.inj h
    obtain ⟨hr, hs⟩ := not_or.1 hzero
    refine ⟨hr, hs, ?_⟩
    set z := messageNumber message
    set r : Scalar := Fin.ofNat P256.n x.val
    set s : Scalar := P256.inverse nonce * (z + r * key.scalar) with hsdef
    -- the factors of the generator and of the public key add up to the nonce
    have hsum : residue (z * P256.inverse s) + residue (r * P256.inverse s) * residue key.scalar =
        residue nonce := by
      have hk : residue nonce ≠ 0 := fun h0 => hnonce (residue_eq_zero.1 h0)
      have ht : residue s ≠ 0 := fun h0 => hs (residue_eq_zero.1 h0)
      have hsval :
          residue s = (residue nonce)⁻¹ * (residue z + residue r * residue key.scalar) := by
        rw [hsdef, residue_mul, residue_inverse_scalar, residue_add, residue_mul]
      have hprod : residue s * residue nonce = residue z + residue r * residue key.scalar := by
        rw [hsval]
        field_simp
      calc residue (z * P256.inverse s) + residue (r * P256.inverse s) * residue key.scalar
          = (residue z + residue r * residue key.scalar) * (residue s)⁻¹ := by
            simp only [residue_mul, residue_inverse_scalar]
            ring
        _ = residue nonce := by
            rw [← hprod]
            field_simp
    have hcombine : combine (z * P256.inverse s) (r * P256.inverse s) key.point = .affine x y := by
      rw [PrivateKey.point_eq, combine_ofGroup, ← mul_nsmul', ← add_nsmul, ← hpoint]
      refine congrArg ofGroup (nsmul_base_congr ?_)
      rw [Nat.cast_add, Nat.cast_mul]
      exact hsum
    rw [verify_of_combine hcombine]
    exact decide_eq_true (Eq.refl r)

lemma nonce?_ne_zero {k : Scalar} : ∀ {attempts : ℕ} {s : Drbg},
    nonce? attempts s = some k → k ≠ 0
  | 0, _, h => by simp [nonce?] at h
  | attempts + 1, s, h => by
      simp only [nonce?] at h
      split at h
      · next j hj =>
        obtain rfl := Option.some.inj h
        exact (scalar?_eq_some hj).1
      · exact nonce?_ne_zero h

lemma parse?_append {r s : Scalar} (hr : r ≠ 0) (hs : s ≠ 0) :
    parse? (scalarOctets r ++ scalarOctets s) = some (r, s) := by
  rw [parse?, List.take_left' (length_scalarOctets r), List.drop_left' (length_scalarOctets r),
    scalar?_scalarOctets hr, scalar?_scalarOctets hs]
  rfl

/-- The pair of a signature is what its halves spell. -/
lemma parse?_eq_some {signature : Bytes} {pair : Scalar × Scalar}
    (h : parse? signature = some pair) :
    pair.1.val = Bytes.toNat (signature.take 32) ∧
      pair.2.val = Bytes.toNat (signature.drop 32) := by
  obtain ⟨r, hr, h⟩ := Option.bind_eq_some_iff.1 h
  obtain ⟨s, hs, h⟩ := Option.bind_eq_some_iff.1 h
  obtain rfl := Option.some.inj h
  exact ⟨(scalar?_eq_some hr).2.1, (scalar?_eq_some hs).2.1⟩

/-- **A signature verifies.**  Whenever the key signs a message, the signature has its 64 octets,
reads as the pair that these octets spell, and that pair verifies under the public key. -/
theorem verify_sign {key : PrivateKey} {message signature : Bytes}
    (h : sign key message = some signature) :
    signature.length = signatureLength ∧
      ∃ pair, parse? signature = some pair ∧ verify key.point message pair = true := by
  obtain ⟨nonce, hnonce, h⟩ := Option.bind_eq_some_iff.1 h
  obtain ⟨⟨r, s⟩, hpair, h⟩ := Option.bind_eq_some_iff.1 h
  obtain rfl := Option.some.inj h
  obtain ⟨hr, hs, hverify⟩ := verify_pair? (nonce?_ne_zero hnonce) hpair
  refine ⟨?_, (r, s), parse?_append hr hs, hverify⟩
  rw [List.length_append, length_scalarOctets, length_scalarOctets, signatureLength]

/-! ## Signatures that a proof computes -/

lemma nonce?_of_scalar? {attempts : ℕ} {s : Drbg} {nonce : Scalar}
    (h : scalar? s.next.value = some nonce) : nonce? (attempts + 1) s = some nonce := by
  rw [nonce?, h]

/-- The signature by the first value of the generator, which is nearly always a nonce. -/
def signAtOnce (key : PrivateKey) (message : Bytes) : Option Bytes :=
  (scalar? (Drbg.seed key message).next.value).elim (sign key message) fun nonce =>
    (pair? key message nonce).map fun (r, s) => scalarOctets r ++ scalarOctets s

lemma sign_eq : sign = signAtOnce := by
  funext key message
  rw [signAtOnce]
  cases hnonce : scalar? (Drbg.seed key message).next.value with
  | none => rw [Option.elim_none]
  | some nonce =>
    have hfirst : nonce? 64 (Drbg.seed key message) = some nonce := nonce?_of_scalar? hnonce
    rw [Option.elim_some, sign, hfirst]
    simp only [Option.bind_eq_bind, Option.bind_some]
    cases pair? key message nonce <;> rfl

end Ecdsa

end DeviceIdentity

import Mathlib.AlgebraicGeometry.EllipticCurve.Affine.Point
import Mathlib.Tactic.FieldSimp
import Mathlib.Tactic.LinearCombination
import DeviceIdentity.Proofs.P256.Residue

/-!
# The group behind the triples

The library adds points on triples, with formulas that never divide.  Here the triples are shown to
compute the group law of the curve, whose associativity is a theorem about Weierstrass curves in
general.

* `Triple.Denotes` — a triple stands for a group element.
* `Triple.denotes_double`, `Triple.denotes_add`, `Triple.denotes_multiply` — the formulas compute
  the group law, the exceptional cases included.
* **`multiply_ofGroup`**, **`combine_ofGroup`** — what the library computes on points is
  multiplication in the group.
* **`nsmul_base_eq_zero_iff`** — the order of the generator is `n`: a multiple of it is infinity
  when `n` divides the number, and only then.
-/

namespace DeviceIdentity

namespace P256

open WeierstrassCurve.Affine (Point.some_ne_zero)

/-! ## The curve -/

/-- The curve `y ^ 2 = x ^ 3 - 3 x + b` over the field of residues. -/
def curve : WeierstrassCurve.Affine (ZMod p) := ⟨0, 0, 0, -3, residue b⟩

/-- The group of points of the curve. -/
abbrev Group : Type := curve.Point

/-- The curve has no singular point. -/
lemma discriminant_ne_zero : curve.Δ ≠ 0 := by
  have hcomputed : residue (Fin.ofNat p 1728 - Fin.ofNat p 432 * (b * b)) ≠ 0 := by
    rw [ne_eq, residue_eq_zero]
    decide +kernel
  have hvalue : curve.Δ = residue (Fin.ofNat p 1728 - Fin.ofNat p 432 * (b * b)) := by
    simp only [WeierstrassCurve.Δ, WeierstrassCurve.b₂, WeierstrassCurve.b₄, WeierstrassCurve.b₆,
      WeierstrassCurve.b₈, curve, residue_sub, residue_mul, residue_ofNat, Nat.cast_ofNat]
    ring
  rw [hvalue]
  exact hcomputed

/-- The equation that the library checks is the equation of the curve. -/
lemma nonsingular_iff_onCurve {x y : Coordinate} :
    curve.Nonsingular (residue x) (residue y) ↔ onCurve x y = true := by
  rw [← curve.equation_iff_nonsingular_of_Δ_ne_zero discriminant_ne_zero,
    WeierstrassCurve.Affine.equation_iff, onCurve, decide_eq_true_eq, ← residue_inj, rightSide]
  simp only [curve, residue_add, residue_sub, residue_mul]
  constructor
  · intro h
    linear_combination h
  · intro h
    linear_combination h

lemma two_ne_zero_residue : (2 : ZMod p) ≠ 0 := by
  have h : residue (Fin.ofNat p 2) ≠ 0 := by
    rw [ne_eq, residue_eq_zero]
    decide +kernel
  intro h2
  exact h (by rw [residue_ofNat, Nat.cast_ofNat, h2])

/-! ## Chords and tangents

The coordinates of a sum, with the denominators cleared.  These are identities in any field; they
are kept away from the residues, where a numeral would be taken for a number of 256 bits.
-/

section Formulas

variable {F : Type} [Field F] {x y u v z w : F}

lemma tangent_x (h2 : (2 : F) ≠ 0) (hy : y ≠ 0) :
    (3 * ((x * z ^ 2) ^ 2 - z ^ 4)) ^ 2 - 8 * (x * z ^ 2) * (y * z ^ 3) ^ 2 =
      ((3 * (x ^ 2 - 1) / (2 * y)) ^ 2 - x - x) * (2 * (y * z ^ 3) * z) ^ 2 := by
  field_simp
  ring

lemma tangent_y (h2 : (2 : F) ≠ 0) (hy : y ≠ 0) :
    3 * ((x * z ^ 2) ^ 2 - z ^ 4) *
          (4 * (x * z ^ 2) * (y * z ^ 3) ^ 2 -
            ((3 * ((x * z ^ 2) ^ 2 - z ^ 4)) ^ 2 - 8 * (x * z ^ 2) * (y * z ^ 3) ^ 2)) -
        8 * (y * z ^ 3) ^ 4 =
      (-(3 * (x ^ 2 - 1) / (2 * y) * ((3 * (x ^ 2 - 1) / (2 * y)) ^ 2 - x - x - x) + y)) *
        (2 * (y * z ^ 3) * z) ^ 3 := by
  field_simp
  ring

lemma chord_x (hxu : x - u ≠ 0) :
    (v * w ^ 3 * z ^ 3 - y * z ^ 3 * w ^ 3) ^ 2 - (u * w ^ 2 * z ^ 2 - x * z ^ 2 * w ^ 2) ^ 3 -
        2 * (x * z ^ 2 * w ^ 2) * (u * w ^ 2 * z ^ 2 - x * z ^ 2 * w ^ 2) ^ 2 =
      (((y - v) / (x - u)) ^ 2 - x - u) *
        ((u * w ^ 2 * z ^ 2 - x * z ^ 2 * w ^ 2) * (z * w)) ^ 2 := by
  field_simp
  ring

lemma chord_y (hxu : x - u ≠ 0) :
    (v * w ^ 3 * z ^ 3 - y * z ^ 3 * w ^ 3) *
          (x * z ^ 2 * w ^ 2 * (u * w ^ 2 * z ^ 2 - x * z ^ 2 * w ^ 2) ^ 2 -
            (((y - v) / (x - u)) ^ 2 - x - u) *
              ((u * w ^ 2 * z ^ 2 - x * z ^ 2 * w ^ 2) * (z * w)) ^ 2) -
        y * z ^ 3 * w ^ 3 * (u * w ^ 2 * z ^ 2 - x * z ^ 2 * w ^ 2) ^ 3 =
      (-((y - v) / (x - u) * (((y - v) / (x - u)) ^ 2 - x - u - x) + y)) *
        ((u * w ^ 2 * z ^ 2 - x * z ^ 2 * w ^ 2) * (z * w)) ^ 3 := by
  field_simp
  ring

end Formulas

/-! ## What a triple stands for -/

/-- The group element that a triple stands for: a triple `(x, y, z)` with `z` not zero stands for
`(x / z ^ 2, y / z ^ 3)`, and every other triple for infinity. -/
inductive Triple.Denotes : Triple → Group → Prop
  | infinity {t : Triple} (hz : t.z = 0) : Triple.Denotes t 0
  | affine {t : Triple} {x y : ZMod p} (h : curve.Nonsingular x y) (hz : residue t.z ≠ 0)
      (hx : residue t.x = x * residue t.z ^ 2) (hy : residue t.y = y * residue t.z ^ 3) :
      Triple.Denotes t (.some x y h)

namespace Triple

/-- A triple stands for infinity exactly when its last component is zero. -/
lemma Denotes.eq_zero_iff {t : Triple} {g : Group} (h : t.Denotes g) : g = 0 ↔ t.z = 0 := by
  cases h with
  | infinity hz => exact ⟨fun _ => hz, fun _ => rfl⟩
  | affine h hz hx hy =>
    constructor
    · intro h0
      exact absurd h0 (Point.some_ne_zero h)
    · intro h0
      exact absurd (residue_eq_zero.2 h0) hz

/-! ### Doubling -/

lemma residue_double_z (t : Triple) :
    residue t.double.z = 2 * residue t.y * residue t.z := by
  simp only [double, residue_add, residue_mul]
  ring

lemma residue_double_x (t : Triple) :
    residue t.double.x =
      (3 * (residue t.x ^ 2 - residue t.z ^ 4)) ^ 2 - 8 * residue t.x * residue t.y ^ 2 := by
  simp only [double, residue_add, residue_sub, residue_mul]
  ring

lemma residue_double_y (t : Triple) :
    residue t.double.y =
      3 * (residue t.x ^ 2 - residue t.z ^ 4) *
          (4 * residue t.x * residue t.y ^ 2 - residue t.double.x) - 8 * residue t.y ^ 4 := by
  rw [residue_double_x]
  simp only [double, residue_add, residue_sub, residue_mul]
  ring

lemma denotes_double {t : Triple} {g : Group} (h : t.Denotes g) : t.double.Denotes (g + g) := by
  cases h with
  | infinity hz =>
    rw [add_zero]
    refine .infinity (residue_eq_zero.1 ?_)
    rw [residue_double_z, residue_eq_zero.2 hz, mul_zero]
  | @affine x y h hz hx hy =>
    by_cases hy0 : y = 0
    · -- a point with second coordinate zero is its own negative
      have hneg : y = curve.negY x y := by
        simp [WeierstrassCurve.Affine.negY, curve, hy0]
      rw [WeierstrassCurve.Affine.Point.add_self_of_Y_eq hneg]
      refine .infinity (residue_eq_zero.1 ?_)
      rw [residue_double_z, hy, hy0]
      ring
    · have h2 := two_ne_zero_residue
      have hneg : y ≠ curve.negY x y := by
        intro heq
        simp only [WeierstrassCurve.Affine.negY, curve] at heq
        have : 2 * y = 0 := by linear_combination heq
        exact (mul_ne_zero h2 hy0) this
      have hslope : curve.slope x x y y = 3 * (x ^ 2 - 1) / (2 * y) := by
        have hnum : 3 * x ^ 2 + 2 * 0 * x + -3 - 0 * y = 3 * (x ^ 2 - 1) := by ring
        have hden : y - (-y - 0 * x - 0) = 2 * y := by ring
        rw [WeierstrassCurve.Affine.slope_of_Y_ne rfl hneg, ← hnum, ← hden]
        rfl
      rw [WeierstrassCurve.Affine.Point.add_self_of_Y_ne hneg]
      refine .affine _ ?_ ?_ ?_
      · rw [residue_double_z, hy]
        exact mul_ne_zero (mul_ne_zero h2 (mul_ne_zero hy0 (pow_ne_zero 3 hz))) hz
      · rw [residue_double_x, residue_double_z, hslope, hx, hy, tangent_x h2 hy0]
        simp [curve]
      · rw [residue_double_y, residue_double_x, residue_double_z, hslope, hx, hy,
          tangent_y h2 hy0]
        simp [curve, WeierstrassCurve.Affine.addY, WeierstrassCurve.Affine.negY]

/-! ### Adding -/

/-- The components of a sum of triples with different first coordinates. -/
lemma residue_add_of_ne {s t : Triple} (hs : s.z ≠ 0) (ht : t.z ≠ 0)
    (hne : s.x * (t.z * t.z) ≠ t.x * (s.z * s.z)) :
    let x₁ := residue s.x * residue t.z ^ 2
    let x₂ := residue t.x * residue s.z ^ 2
    let y₁ := residue s.y * residue t.z ^ 3
    let y₂ := residue t.y * residue s.z ^ 3
    residue (s.add t).z = (x₂ - x₁) * (residue s.z * residue t.z) ∧
      residue (s.add t).x = (y₂ - y₁) ^ 2 - (x₂ - x₁) ^ 3 - 2 * x₁ * (x₂ - x₁) ^ 2 ∧
      residue (s.add t).y =
        (y₂ - y₁) * (x₁ * (x₂ - x₁) ^ 2 - residue (s.add t).x) - y₁ * (x₂ - x₁) ^ 3 := by
  simp only [add, if_neg hs, if_neg ht, if_neg hne, residue_add, residue_sub, residue_mul]
  refine ⟨?_, ?_, ?_⟩ <;> ring

lemma denotes_add_of_ne {s t : Triple} {x y u v : ZMod p} {h : curve.Nonsingular x y}
    {k : curve.Nonsingular u v} (hs : s.Denotes (.some x y h)) (ht : t.Denotes (.some u v k))
    (hxu : x ≠ u) : (s.add t).Denotes (.some x y h + .some u v k) := by
  cases hs with
  | affine _ hsz hsx hsy =>
    cases ht with
    | affine _ htz htx hty =>
      have hdiff : x - u ≠ 0 := sub_ne_zero.2 hxu
      have hgap :
          u * residue t.z ^ 2 * residue s.z ^ 2 - x * residue s.z ^ 2 * residue t.z ^ 2 ≠ 0 := by
        have : u * residue t.z ^ 2 * residue s.z ^ 2 - x * residue s.z ^ 2 * residue t.z ^ 2 =
            -(x - u) * (residue s.z ^ 2 * residue t.z ^ 2) := by ring
        rw [this]
        exact mul_ne_zero (neg_ne_zero.2 hdiff)
          (mul_ne_zero (pow_ne_zero 2 hsz) (pow_ne_zero 2 htz))
      have hne : s.x * (t.z * t.z) ≠ t.x * (s.z * s.z) := by
        intro heq
        apply hgap
        rw [← htx, ← hsx]
        have := congrArg residue heq
        simp only [residue_mul] at this
        linear_combination -this
      obtain ⟨hz, hx, hy⟩ := residue_add_of_ne (fun h0 => hsz (residue_eq_zero.2 h0))
        (fun h0 => htz (residue_eq_zero.2 h0)) hne
      simp only [hsx, hsy, htx, hty] at hz hx hy
      rw [chord_x hdiff] at hx
      rw [hx, chord_y hdiff] at hy
      rw [WeierstrassCurve.Affine.Point.add_of_X_ne hxu]
      refine .affine _ ?_ ?_ ?_
      · rw [hz]
        exact mul_ne_zero hgap (mul_ne_zero hsz htz)
      · rw [hx, hz, WeierstrassCurve.Affine.slope_of_X_ne hxu]
        simp [curve]
      · rw [hy, hz, WeierstrassCurve.Affine.slope_of_X_ne hxu]
        simp [curve, WeierstrassCurve.Affine.addY, WeierstrassCurve.Affine.negY]

lemma denotes_add {s t : Triple} {g k : Group} (hs : s.Denotes g) (ht : t.Denotes k) :
    (s.add t).Denotes (g + k) := by
  have hs' := hs
  have ht' := ht
  cases hs with
  | infinity hz =>
    rw [zero_add, add, if_pos hz]
    exact ht
  | @affine x y h hsz hsx hsy =>
    have hs0 : s.z ≠ 0 := fun h0 => hsz (residue_eq_zero.2 h0)
    cases ht with
    | infinity hz =>
      rw [add_zero, add, if_neg hs0, if_pos hz]
      exact hs'
    | @affine u v k htz htx hty =>
      have ht0 : t.z ≠ 0 := fun h0 => htz (residue_eq_zero.2 h0)
      by_cases hxu : x = u
      · subst hxu
        have hX : s.x * (t.z * t.z) = t.x * (s.z * s.z) := by
          apply residue_injective
          simp only [residue_mul, hsx, htx]
          ring
        by_cases hyv : y = v
        · subst hyv
          have hY : s.y * (t.z * t.z * t.z) = t.y * (s.z * s.z * s.z) := by
            apply residue_injective
            simp only [residue_mul, hsy, hty]
            ring
          simp only [add, if_neg hs0, if_neg ht0, if_pos hX, if_pos hY]
          exact denotes_double hs'
        · -- the second coordinates differ, so they are opposite
          have hY : s.y * (t.z * t.z * t.z) ≠ t.y * (s.z * s.z * s.z) := by
            intro heq
            have := congrArg residue heq
            simp only [residue_mul, hsy, hty] at this
            refine hyv (mul_right_cancel₀ (mul_ne_zero (pow_ne_zero 3 hsz) (pow_ne_zero 3 htz)) ?_)
            linear_combination this
          have hneg : y = curve.negY x v :=
            (WeierstrassCurve.Affine.Y_eq_of_X_eq h.1 k.1 rfl).resolve_left hyv
          rw [WeierstrassCurve.Affine.Point.add_of_Y_eq rfl hneg]
          simp only [add, if_neg hs0, if_neg ht0, if_pos hX, if_neg hY]
          exact .infinity rfl
      · exact denotes_add_of_ne hs' ht' hxu

/-! ### Multiplying -/

/-- Doubling and adding multiplies the group element, as long as the number has no more binary
digits than announced. -/
lemma denotes_multiply {t : Triple} {g : Group} (h : t.Denotes g) :
    ∀ bits k : ℕ, k < 2 ^ bits → (t.multiply bits k).Denotes (k • g)
  | 0, k, hk => by
      obtain rfl : k = 0 := by simpa using hk
      rw [zero_nsmul]
      exact .infinity rfl
  | bits + 1, k, hk => by
      have hhalf : k / 2 < 2 ^ bits := by rw [pow_succ] at hk; omega
      have ih := denotes_double (denotes_multiply h bits (k / 2) hhalf)
      simp only [multiply]
      split_ifs with odd
      · have hsplit : k = k / 2 + k / 2 + 1 := by omega
        rw [hsplit, succ_nsmul, add_nsmul, ← hsplit]
        exact denotes_add ih h
      · have hsplit : k = k / 2 + k / 2 := by omega
        rw [hsplit, add_nsmul, ← hsplit]
        exact ih

end Triple

/-! ## Points and group elements -/

/-- The point of a group element. -/
def Point.ofGroup : Group → Point
  | .zero => .infinity
  | .some x y _ => .affine (Fin.ofNat p x.val) (Fin.ofNat p y.val)

/-- The group element of a point of the curve. -/
def Point.toGroup : Point → Group
  | .infinity => 0
  | .affine x y =>
    if h : onCurve x y = true then .some (residue x) (residue y) (nonsingular_iff_onCurve.2 h)
    else 0

open Point (ofGroup)

lemma residue_ofNat_val (x : ZMod p) : residue (Fin.ofNat p x.val) = x := by
  rw [residue_ofNat, ZMod.natCast_zmod_val]

@[simp] lemma ofGroup_zero : ofGroup 0 = .infinity := rfl

lemma ofGroup_toGroup {x y : Coordinate} (h : onCurve x y = true) :
    ofGroup (Point.toGroup (.affine x y)) = .affine x y := by
  simp only [Point.toGroup, dif_pos h, ofGroup, Point.affine.injEq]
  exact ⟨residue_injective (residue_ofNat_val _), residue_injective (residue_ofNat_val _)⟩

/-- The coordinates of a group element satisfy the equation of the curve. -/
lemma onCurve_of_ofGroup {g : Group} {x y : Coordinate} (h : ofGroup g = .affine x y) :
    onCurve x y = true := by
  cases g with
  | zero => exact absurd h (by simp [ofGroup])
  | some u v huv =>
    obtain ⟨hx, hy⟩ := Point.affine.inj h
    rw [← hx, ← hy, ← nonsingular_iff_onCurve, residue_ofNat_val, residue_ofNat_val]
    exact huv

lemma exists_coordinates {g : Group} (h : g ≠ 0) : ∃ x y, ofGroup g = .affine x y := by
  cases g with
  | zero => exact absurd rfl h
  | some u v huv => exact ⟨_, _, rfl⟩

lemma Triple.Denotes.toPoint_eq {t : Triple} {g : Group} (h : t.Denotes g) :
    t.toPoint = ofGroup g := by
  cases h with
  | infinity hz => rw [Triple.toPoint, if_pos hz, ofGroup_zero]
  | @affine x y h hz hx hy =>
    have hz0 : t.z ≠ 0 := fun h0 => hz (residue_eq_zero.2 h0)
    simp only [Triple.toPoint, if_neg hz0, ofGroup, Point.affine.injEq]
    constructor
    · apply residue_injective
      rw [residue_ofNat_val]
      simp only [residue_mul, residue_inverse_coordinate, hx]
      field_simp
    · apply residue_injective
      rw [residue_ofNat_val]
      simp only [residue_mul, residue_inverse_coordinate, hy]
      field_simp

lemma Triple.denotes_ofPoint (g : Group) : (Triple.ofPoint (ofGroup g)).Denotes g := by
  cases g with
  | zero => exact .infinity rfl
  | some x y h =>
    have hone : residue (1 : Coordinate) = 1 := residue_one
    refine .affine h ?_ ?_ ?_
    · change residue (1 : Coordinate) ≠ 0
      rw [hone]
      exact one_ne_zero
    · change residue (Fin.ofNat p x.val) = x * residue (1 : Coordinate) ^ 2
      rw [hone, residue_ofNat_val, one_pow, mul_one]
    · change residue (Fin.ofNat p y.val) = y * residue (1 : Coordinate) ^ 3
      rw [hone, residue_ofNat_val, one_pow, mul_one]

lemma scalar_lt (k : Scalar) : k.val < 2 ^ 256 :=
  lt_trans k.isLt (by decide)

/-- **Multiplying a point multiplies the group element.** -/
theorem multiply_ofGroup (k : Scalar) (g : Group) :
    multiply k (ofGroup g) = ofGroup (k.val • g) :=
  (Triple.denotes_multiply (Triple.denotes_ofPoint g) 256 k.val (scalar_lt k)).toPoint_eq

/-! ## The generator -/

/-- The group element that generates the group. -/
def base : Group := Point.toGroup generator

lemma ofGroup_base : ofGroup base = generator :=
  ofGroup_toGroup (by decide +kernel)

lemma base_ne_zero : base ≠ 0 := by
  intro h
  have hpoint := ofGroup_base
  rw [h, ofGroup_zero] at hpoint
  exact absurd hpoint (by simp [generator])

lemma order_nsmul_base : n • base = 0 := by
  have h := Triple.denotes_multiply (Triple.denotes_ofPoint base) 256 n (by decide)
  rw [h.eq_zero_iff, ofGroup_base]
  decide +kernel

lemma addOrderOf_base : addOrderOf base = n :=
  addOrderOf_eq_prime order_nsmul_base base_ne_zero

/-- **A multiple of the generator is infinity exactly when the order divides the factor.** -/
theorem nsmul_base_eq_zero_iff (k : ℕ) : k • base = 0 ↔ n ∣ k := by
  rw [← addOrderOf_base, addOrderOf_dvd_iff_nsmul_eq_zero]

/-- Multiples of the generator depend on the residue of the factor only. -/
lemma nsmul_base_congr {j k : ℕ} (h : (j : ZMod n) = (k : ZMod n)) : j • base = k • base := by
  rw [nsmul_eq_nsmul_iff_modEq, addOrderOf_base]
  exact (ZMod.natCast_eq_natCast_iff j k n).1 h

/-- **A sum of multiples of the generator and a group element, as it is computed on points.** -/
theorem combine_ofGroup (j k : Scalar) (g : Group) :
    combine j k (ofGroup g) = ofGroup (j.val • base + k.val • g) := by
  have hj := Triple.denotes_multiply (Triple.denotes_ofPoint base) 256 j.val (scalar_lt j)
  have hk := Triple.denotes_multiply (Triple.denotes_ofPoint g) 256 k.val (scalar_lt k)
  rw [ofGroup_base] at hj
  exact (Triple.denotes_add hj hk).toPoint_eq

end P256

end DeviceIdentity

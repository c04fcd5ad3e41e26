import Mathlib.Data.ZMod.Basic
import Mathlib.FieldTheory.Finite.Basic
import Mathlib.NumberTheory.LucasPrimality
import Mathlib.Tactic.NormNum.Prime
import DeviceIdentity.Bytes
import DeviceIdentity.P256.Point

/-!
# Residues, powers, and the two primes

Coordinates and scalars are computed on `Fin m`, and the theory of fields lives on `ZMod m`.
`residue` goes from one to the other and respects everything the library computes with, so a fact
about `ZMod m` becomes a fact about the numbers that are computed.

* `residue_power` — squaring and multiplying computes the power.
* `prime_of_passes` — a number that passes Lucas's test with prime factors is prime; so are all
  numbers of a list in which the factors of each come before it (`prime_of_allPass`).
* **`prime_p`**, **`prime_n`** — the field has a prime number of elements, and so has the group.
* `residue_inverse` — over a prime, `inverse` is the inverse of the field.
-/

namespace DeviceIdentity

namespace P256

/-! ## Residues -/

section Residue

variable {m : ℕ}

/-- The residue class of a number below `m`. -/
def residue (x : Fin m) : ZMod m := (x.val : ZMod m)

lemma residue_injective : Function.Injective (residue : Fin m → ZMod m) := by
  intro x y h
  have hv := congrArg ZMod.val h
  rw [residue, residue, ZMod.val_natCast_of_lt x.isLt, ZMod.val_natCast_of_lt y.isLt] at hv
  exact Fin.ext hv

@[simp] lemma residue_inj {x y : Fin m} : residue x = residue y ↔ x = y :=
  residue_injective.eq_iff

@[simp] lemma residue_add (x y : Fin m) : residue (x + y) = residue x + residue y := by
  rw [residue, Fin.val_add, ZMod.natCast_mod, Nat.cast_add, residue, residue]

@[simp] lemma residue_mul (x y : Fin m) : residue (x * y) = residue x * residue y := by
  rw [residue, Fin.val_mul, ZMod.natCast_mod, Nat.cast_mul, residue, residue]

@[simp] lemma residue_sub (x y : Fin m) : residue (x - y) = residue x - residue y := by
  rw [residue, Fin.val_sub, ZMod.natCast_mod, Nat.cast_add, Nat.cast_sub y.isLt.le,
    ZMod.natCast_self, residue, residue]
  ring

variable [NeZero m]

@[simp] lemma residue_ofNat (k : ℕ) : residue (Fin.ofNat m k) = (k : ZMod m) := by
  rw [residue, Fin.val_ofNat, ZMod.natCast_mod]

@[simp] lemma residue_zero : residue (0 : Fin m) = 0 := by
  rw [residue, Fin.val_zero, Nat.cast_zero]

@[simp] lemma residue_eq_zero {x : Fin m} : residue x = 0 ↔ x = 0 := by
  rw [← residue_zero, residue_inj]

@[simp] lemma residue_one : residue (1 : Fin m) = 1 := by
  rw [residue, ← Nat.cast_one, ← residue_ofNat (m := m) 1]
  rfl

/-- Squaring and multiplying computes the power, as long as the exponent has no more binary digits
than announced. -/
lemma residue_power (x : Fin m) :
    ∀ bits k : ℕ, k < 2 ^ bits → residue (power x bits k) = residue x ^ k
  | 0, k, h => by
      obtain rfl : k = 0 := by simpa using h
      rw [power, residue_ofNat, Nat.cast_one, pow_zero]
  | bits + 1, k, h => by
      have hk : k / 2 < 2 ^ bits := by rw [pow_succ] at h; omega
      have ih := residue_power x bits (k / 2) hk
      simp only [power]
      split_ifs with odd
      · have hsplit : k = k / 2 + k / 2 + 1 := by omega
        rw [residue_mul, residue_mul, ih]
        conv_rhs => rw [hsplit, pow_succ, pow_add]
      · have hsplit : k = k / 2 + k / 2 := by omega
        rw [residue_mul, ih]
        conv_rhs => rw [hsplit, pow_add]

end Residue

/-! ## Lucas's test

A number `q` is prime when some base has order `q - 1` modulo it.  The order is found from the
prime factors of `q - 1`, which have to be known to be prime before: small ones by trial division,
and large ones by the same test.
-/

/-- One application of the test. -/
structure LucasStep where
  /-- The number tested. -/
  number : ℕ
  /-- The base whose order is looked at. -/
  base : ℕ
  /-- The prime factors of the number before it, each as often as it divides. -/
  factors : List ℕ

namespace LucasStep

/-- Whether the number passes the test, with factors out of `known`. -/
def passes (known : List ℕ) (step : LucasStep) : Bool :=
  match step.number with
  | 0 => false
  | k + 1 =>
    let x : Fin (k + 1) := Fin.ofNat (k + 1) step.base
    step.factors.all known.contains && step.factors.prod == k && k < 2 ^ 256
      && power x 256 k == 1 && step.factors.all fun q => power x 256 (k / q) != 1

/-- Whether every number passes, the ones before it being known. -/
def allPass : (known : List ℕ) → List LucasStep → Bool
  | _, [] => true
  | known, step :: rest => step.passes known && allPass (step.number :: known) rest

/-- A number that passes the test with prime factors is prime. -/
lemma prime_of_passes {known : List ℕ} {step : LucasStep} (hknown : ∀ q ∈ known, q.Prime)
    (h : step.passes known = true) : step.number.Prime := by
  obtain ⟨number, base, factors⟩ := step
  cases number with
  | zero => simp [passes] at h
  | succ k =>
    simp only [passes, Bool.and_eq_true, List.all_eq_true, List.contains_iff_mem, beq_iff_eq,
      bne_iff_ne, decide_eq_true_eq] at h
    obtain ⟨⟨⟨⟨hfactors, hprod⟩, hk⟩, hone⟩, hne⟩ := h
    have hpow : ∀ e ≤ k,
        residue (power (Fin.ofNat (k + 1) base) 256 e) = (base : ZMod (k + 1)) ^ e := by
      intro e he
      rw [residue_power _ _ _ (lt_of_le_of_lt he hk), residue_ofNat]
    refine lucas_primality (k + 1) (base : ZMod (k + 1)) ?_ ?_
    · rw [Nat.add_sub_cancel, ← hpow k le_rfl, hone, residue_one]
    · intro q hq hdvd heq
      rw [Nat.add_sub_cancel] at hdvd heq
      rw [← hprod] at hdvd
      -- a prime that divides the product is one of the factors, for these are prime themselves
      obtain ⟨f, hf, hqf⟩ := (Prime.dvd_prod_iff hq.prime).1 hdvd
      obtain rfl := (Nat.prime_dvd_prime_iff_eq hq (hknown f (hfactors f hf))).1 hqf
      refine hne q hf (residue_injective ?_)
      rw [hpow _ (Nat.div_le_self k q), heq, residue_one]

lemma prime_of_allPass : ∀ {known : List ℕ} {steps : List LucasStep}, (∀ q ∈ known, q.Prime) →
    allPass known steps = true → ∀ step ∈ steps, step.number.Prime
  | _, [], _, _, _, hstep => by simp at hstep
  | known, first :: rest, hknown, h, step, hstep => by
      simp only [allPass, Bool.and_eq_true] at h
      have hfirst : first.number.Prime := prime_of_passes hknown h.1
      rcases List.mem_cons.1 hstep with rfl | hrest
      · exact hfirst
      · refine prime_of_allPass ?_ h.2 step hrest
        intro q hq
        rcases List.mem_cons.1 hq with rfl | hq
        · exact hfirst
        · exact hknown q hq

end LucasStep

/-! ## The two primes -/

/-- The small factors that occur below. -/
def smallPrimes : List ℕ :=
  [2, 3, 5, 7, 11, 17, 19, 23, 29, 31, 41, 43, 53, 71, 107, 127, 131, 173, 197, 229, 257, 263,
    311, 313, 337, 373, 641, 661, 1201, 1297, 1531, 2411, 3023, 3407, 3677, 3769, 4349, 9547,
    16879, 17449, 18169]

/-- The test for the order of the group and the order of the field, and for the large factors that
lead to them. -/
def lucasSteps : List LucasStep := [
  ⟨38189, 2, [2, 2, 9547]⟩,
  ⟨65537, 3, [2, 2, 2, 2, 2, 2, 2, 2, 2, 2, 2, 2, 2, 2, 2, 2]⟩,
  ⟨78283, 3, [2, 3, 3, 4349]⟩,
  ⟨104471, 11, [2, 5, 31, 337]⟩,
  ⟨126241, 7, [2, 2, 2, 2, 2, 3, 5, 263]⟩,
  ⟨155317, 5, [2, 2, 3, 7, 43, 43]⟩,
  ⟨490463, 14, [2, 7, 53, 661]⟩,
  ⟨704251, 2, [2, 3, 3, 5, 5, 5, 313]⟩,
  ⟨3969899, 2, [2, 19, 104471]⟩,
  ⟨6700417, 5, [2, 2, 2, 2, 2, 2, 2, 3, 17449]⟩,
  ⟨9350987, 2, [2, 17, 229, 1201]⟩,
  ⟨187019741, 2, [2, 2, 5, 9350987]⟩,
  ⟨191039911, 3, [2, 3, 5, 41, 155317]⟩,
  ⟨204061199, 11, [2, 11, 23, 107, 3769]⟩,
  ⟨311245691, 2, [2, 5, 7, 17, 29, 29, 311]⟩,
  ⟨622491383, 5, [2, 311245691]⟩,
  ⟨34282281433, 17, [2, 2, 2, 3, 7, 204061199]⟩,
  ⟨66417393611, 6, [2, 5, 53, 173, 197, 3677]⟩,
  ⟨1002328039319, 19, [2, 126241, 3969899]⟩,
  ⟨11290956913871, 13, [2, 5, 17, 66417393611]⟩,
  ⟨46076956964474543, 5, [2, 23, 18169, 78283, 704251]⟩,
  ⟨208150935158385979, 2, [2, 3, 11, 43, 127, 3023, 191039911]⟩,
  ⟨2624747550333869278416773953, 7, [2, 2, 2, 2, 2, 2, 3, 3, 1297, 16879, 208150935158385979]⟩,
  ⟨774023187263532362759620327192479577272145303, 3, [2, 3, 3, 2411, 34282281433,
    11290956913871, 46076956964474543]⟩,
  ⟨835945042244614951780389953367877943453916927241, 11, [2, 2, 2, 3, 3, 3, 5,
    774023187263532362759620327192479577272145303]⟩,
  ⟨n, 7, [2, 2, 2, 2, 3, 71, 131, 373, 3407, 17449, 38189, 187019741, 622491383, 1002328039319,
    2624747550333869278416773953]⟩,
  ⟨p, 6, [2, 3, 5, 5, 17, 257, 641, 1531, 65537, 490463, 6700417,
    835945042244614951780389953367877943453916927241]⟩]

lemma prime_of_mem_smallPrimes : ∀ q ∈ smallPrimes, q.Prime := by
  simp only [smallPrimes, List.forall_mem_cons]
  norm_num

lemma allPass_lucasSteps : LucasStep.allPass smallPrimes lucasSteps = true := by
  decide +kernel

lemma prime_of_mem_lucasSteps {step : LucasStep} (h : step ∈ lucasSteps) : step.number.Prime :=
  LucasStep.prime_of_allPass prime_of_mem_smallPrimes allPass_lucasSteps step h

/-- **The field has a prime number of elements.** -/
theorem prime_p : p.Prime :=
  prime_of_mem_lucasSteps (List.mem_of_getLast? (l := lucasSteps) rfl)

/-- **The group has a prime number of elements.** -/
theorem prime_n : n.Prime :=
  prime_of_mem_lucasSteps (List.mem_of_getElem? (l := lucasSteps) (i := 25) rfl)

instance : Fact p.Prime := ⟨prime_p⟩

instance : Fact n.Prime := ⟨prime_n⟩

/-! ## Inverses -/

/-- Over a prime of at most 256 binary digits, `inverse` is the inverse of the field.  It is the
power to `m - 2`, and the power to `m - 1` is one. -/
lemma residue_inverse {m : ℕ} [NeZero m] [Fact m.Prime] (h : m < 2 ^ 256) (h2 : 2 < m)
    (x : Fin m) : residue (inverse x) = (residue x)⁻¹ := by
  have hpow : residue (inverse x) = residue x ^ (m - 2) := by
    rw [inverse, residue_power _ _ _ (by omega)]
  rcases eq_or_ne (residue x) 0 with hx | hx
  · rw [hpow, hx, inv_zero, zero_pow (by omega)]
  · rw [hpow]
    refine eq_inv_of_mul_eq_one_left ?_
    rw [← pow_succ, show m - 2 + 1 = m - 1 by omega, ZMod.pow_card_sub_one_eq_one hx]

@[simp] lemma residue_inverse_coordinate (x : Coordinate) :
    residue (inverse x) = (residue x)⁻¹ :=
  residue_inverse (by decide) (by decide) x

@[simp] lemma residue_inverse_scalar (k : Scalar) : residue (inverse k) = (residue k)⁻¹ :=
  residue_inverse (by decide) (by decide) k

end P256

end DeviceIdentity

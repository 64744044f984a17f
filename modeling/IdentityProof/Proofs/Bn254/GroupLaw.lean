import Mathlib.AlgebraicGeometry.EllipticCurve.Affine.Point
import IdentityProof.Bn254.Curve
import IdentityProof.Proofs.Bn254.Field

/-! The group law. Points in projective coordinates represent those of the curve as a group, and the
operations on them are its addition and its multiples. -/

namespace IdentityProof.Bn254

open WeierstrassCurve.Affine

def curve {K : Type} [Field K] (b : K) : WeierstrassCurve.Affine K :=
  { a₁ := 0, a₂ := 0, a₃ := 0, a₄ := 0, a₆ := b }

section Curve

variable {K : Type} [Field K] {b : K}

theorem equation_curve {x y : K} : (curve b).Equation x y ↔ y * y = x * x * x + b := by
  rw [equation_iff]
  simp only [curve, zero_mul, add_zero]
  rw [sq, pow_succ, sq]

theorem negY_curve (x y : K) : (curve b).negY x y = -y := by
  simp [negY, curve]

theorem addX_curve (x₁ x₂ l : K) : (curve b).addX x₁ x₂ l = l * l - x₁ - x₂ := by
  simp [addX, curve, sq]

theorem addY_curve (x₁ x₂ y₁ l : K) :
    (curve b).addY x₁ x₂ y₁ l = l * (x₁ - (l * l - x₁ - x₂)) - y₁ := by
  rw [addY, negAddY, negY_curve, addX_curve]
  ring

theorem eight_ne_zero (htwo : (2 : K) ≠ 0) : (8 : K) ≠ 0 := by
  have hcube : (8 : K) = 2 ^ 3 := by norm_num
  rw [hcube]
  exact pow_ne_zero 3 htwo

theorem ne_neg_self (htwo : (2 : K) ≠ 0) {y : K} (hy : y ≠ 0) : y ≠ -y := by
  intro hself
  have hsum : 2 * y = 0 := by rw [two_mul]; exact eq_neg_iff_add_eq_zero.mp hself
  exact (mul_ne_zero htwo hy) hsum

theorem ne_negY (htwo : (2 : K) ≠ 0) (x : K) {y : K} (hy : y ≠ 0) : y ≠ (curve b).negY x y := by
  rw [negY_curve]
  exact ne_neg_self htwo hy

theorem nonsingular_curve (htwo : (2 : K) ≠ 0) {x y : K} (h : y * y = x * x * x + b)
    (hy : y ≠ 0) : (curve b).Nonsingular x y :=
  (nonsingular_iff x y).mpr ⟨equation_curve.mpr h, .inr (ne_negY htwo x hy)⟩

theorem eq_neg_of_equation {x y₁ y₂ : K} (h₁ : (curve b).Nonsingular x y₁)
    (h₂ : (curve b).Nonsingular x y₂) (hne : y₁ ≠ y₂) : y₁ = (curve b).negY x y₂ := by
  have hsame : y₁ * y₁ = y₂ * y₂ :=
    (equation_curve.mp h₁.1).trans (equation_curve.mp h₂.1).symm
  rw [negY_curve]
  exact (mul_self_eq_mul_self_iff.mp hsame).resolve_left hne

variable [DecidableEq K]

theorem slope_curve_self {x y : K} (hy : y ≠ -y) :
    (curve b).slope x x y y = 3 * x ^ 2 / (2 * y) := by
  rw [← negY_curve (b := b) x y] at hy
  rw [slope_of_Y_ne rfl hy, negY_curve]
  simp only [curve, mul_zero, zero_mul, add_zero, sub_zero, sub_neg_eq_add, two_mul]

end Curve

namespace Point

variable {F K : Type} [CoordinateField F] [Field K]

/-- The point stands for one of the curve: the infinite one if it is infinite, and else the one
with its affine coordinates. -/
inductive Represents (i : Interpretation F K) (b : K) (p : Point F) : (curve b).Point → Prop
  | infinite : i.value p.z = 0 → Represents i b p 0
  | finite {x y : K} {h : (curve b).Nonsingular x y} : i.value p.z ≠ 0 →
      i.value p.x = x * i.value p.z → i.value p.y = y * i.value p.z → Represents i b p (.some x y h)

variable {i : Interpretation F K} {b : K} {p q : Point F} {P Q : (curve b).Point}

namespace Represents

theorem isInfinite_iff (h : Represents i b p P) : p.isInfinite = true ↔ P = 0 := by
  have hz : p.isInfinite = true ↔ i.value p.z = 0 := i.isZero p.z
  rw [hz]
  cases h with
  | infinite hz => exact iff_of_true hz rfl
  | finite hz hx hy => exact iff_of_false hz (WeierstrassCurve.Affine.Point.some_ne_zero _)

theorem zero : Represents i b Point.infinity 0 := .infinite i.zero

theorem isZero_cross {a c : F} {s t : K} (hz₁ : i.value p.z ≠ 0) (hz₂ : i.value q.z ≠ 0)
    (ha : i.value a = s * i.value p.z) (hc : i.value c = t * i.value q.z) :
    CoordinateField.isZero (c * p.z - a * q.z) = true ↔ s = t := by
  have hcross : i.value (c * p.z - a * q.z) = (t - s) * (i.value p.z * i.value q.z) := by
    rw [i.sub, i.mul, i.mul, ha, hc]
    ring
  rw [i.isZero, hcross, mul_eq_zero_iff_right (mul_ne_zero hz₁ hz₂), sub_eq_zero, eq_comm]

variable [DecidableEq K]

theorem double (htwo : (2 : K) ≠ 0) (h : Represents i b p P) : Represents i b p.double (P + P) := by
  have hz' : i.value p.double.z = 8 * (i.value p.y * i.value p.z) ^ 3 := by
    simp only [Point.double, twice, i.add, i.mul]
    ring
  cases h with
  | infinite hz =>
    rw [add_zero]
    refine .infinite ?_
    rw [hz', hz, mul_zero, zero_pow (by decide), mul_zero]
  | @finite x y hxy hz hx hy =>
    by_cases hy0 : y = 0
    · have hneg : y = (curve b).negY x y := by rw [negY_curve, hy0, neg_zero]
      rw [WeierstrassCurve.Affine.Point.add_self_of_Y_eq hneg]
      refine .infinite ?_
      rw [hz', hy, hy0, zero_mul, zero_mul, zero_pow (by decide), mul_zero]
    · have hne := ne_neg_self htwo hy0
      rw [WeierstrassCurve.Affine.Point.add_self_of_Y_ne (ne_negY htwo x hy0)]
      refine .finite ?_ ?_ ?_
      · rw [hz', hy]
        exact mul_ne_zero (eight_ne_zero htwo) (pow_ne_zero 3 (mul_ne_zero (mul_ne_zero hy0 hz) hz))
      · rw [hz', addX_curve, slope_curve_self hne]
        simp only [Point.double, twice, thrice, i.add, i.mul, i.sub, hx, hy]
        field_simp
        ring
      · rw [hz', addY_curve, slope_curve_self hne]
        simp only [Point.double, twice, thrice, i.add, i.mul, i.sub, hx, hy]
        field_simp
        ring

def chord (p q : Point F) : Point F :=
  let u2 := p.y * q.z
  let v2 := p.x * q.z
  let u := q.y * p.z - u2
  let v := q.x * p.z - v2
  let w := p.z * q.z
  let vv := v * v
  let vvv := v * vv
  let r := vv * v2
  let a := u * u * w - vvv - twice r
  { x := v * a, y := u * (r - a) - vvv * u2, z := vvv * w }

theorem chord_finite {x₁ x₂ y₁ y₂ : K} {h₁ : (curve b).Nonsingular x₁ y₁}
    {h₂ : (curve b).Nonsingular x₂ y₂} (hz₁ : i.value p.z ≠ 0) (hz₂ : i.value q.z ≠ 0)
    (hx₁ : i.value p.x = x₁ * i.value p.z) (hx₂ : i.value q.x = x₂ * i.value q.z)
    (hy₁ : i.value p.y = y₁ * i.value p.z) (hy₂ : i.value q.y = y₂ * i.value q.z)
    (hne : x₁ ≠ x₂) : Represents i b (chord p q)
      (.some x₁ y₁ h₁ + .some x₂ y₂ h₂ : (curve b).Point) := by
  have hrun : x₁ - x₂ ≠ 0 := sub_ne_zero.mpr hne
  have hz' : i.value (chord p q).z =
      (x₂ - x₁) ^ 3 * (i.value p.z * i.value q.z) ^ 4 := by
    simp only [chord, i.mul, i.sub, hx₁, hx₂]
    ring
  rw [WeierstrassCurve.Affine.Point.add_of_X_ne hne]
  refine .finite ?_ ?_ ?_
  · rw [hz']
    exact mul_ne_zero (pow_ne_zero 3 (sub_ne_zero.mpr hne.symm))
      (pow_ne_zero 4 (mul_ne_zero hz₁ hz₂))
  · rw [hz', addX_curve, slope_of_X_ne hne]
    simp only [chord, twice, i.add, i.mul, i.sub, hx₁, hx₂, hy₁, hy₂]
    field_simp
    ring
  · rw [hz', addY_curve, slope_of_X_ne hne]
    simp only [chord, twice, i.add, i.mul, i.sub, hx₁, hx₂, hy₁, hy₂]
    field_simp
    ring

theorem add (htwo : (2 : K) ≠ 0) (hp : Represents i b p P) (hq : Represents i b q Q) :
    Represents i b (p.add q) (P + Q) := by
  unfold Point.add
  by_cases hpinf : p.isInfinite = true
  · rw [if_pos hpinf, hp.isInfinite_iff.mp hpinf, zero_add]
    exact hq
  by_cases hqinf : q.isInfinite = true
  · rw [if_neg hpinf, if_pos hqinf, hq.isInfinite_iff.mp hqinf, add_zero]
    exact hp
  rw [if_neg hpinf, if_neg hqinf]
  have hpne := mt hp.isInfinite_iff.mpr hpinf
  have hqne := mt hq.isInfinite_iff.mpr hqinf
  have hdouble := hp.double htwo
  cases hp with
  | infinite => exact absurd rfl hpne
  | @finite x₁ y₁ h₁ hz₁ hx₁ hy₁ =>
    cases hq with
    | infinite => exact absurd rfl hqne
    | @finite x₂ y₂ h₂ hz₂ hx₂ hy₂ =>
      have hruns := isZero_cross hz₁ hz₂ hx₁ hx₂
      have hrises := isZero_cross hz₁ hz₂ hy₁ hy₂
      simp only [hruns, hrises]
      by_cases hx : x₁ = x₂
      · subst hx
        rw [if_pos rfl]
        by_cases hy : y₁ = y₂
        · subst hy
          rw [if_pos rfl]
          exact hdouble
        · rw [if_neg hy, WeierstrassCurve.Affine.Point.add_of_Y_eq rfl (eq_neg_of_equation h₁ h₂ hy)]
          exact zero
      · rw [if_neg hx]
        exact chord_finite hz₁ hz₂ hx₁ hx₂ hy₁ hy₂ hx

theorem multiplyFrom (htwo : (2 : K) ≠ 0) {sum : Point F} {S : (curve b).Point} {fuel n : Nat}
    (hp : Represents i b p P) (hsum : Represents i b sum S) (h : n < 2 ^ fuel) :
    Represents i b (Point.multiplyFrom fuel p n sum) (S + n • P) := by
  induction fuel generalizing p P sum S n with
  | zero =>
    obtain rfl : n = 0 := by omega
    rw [Point.multiplyFrom, zero_nsmul, add_zero]
    exact hsum
  | succ fuel ih =>
    unfold Point.multiplyFrom
    split
    · rename_i hzero
      rw [hzero, zero_nsmul, add_zero]
      exact hsum
    · have hbit : Represents i b (if n % 2 = 1 then sum.add p else sum) (S + (n % 2) • P) := by
        rcases Nat.mod_two_eq_zero_or_one n with hn | hn
        · rw [if_neg (by omega), hn, zero_nsmul, add_zero]
          exact hsum
        · rw [if_pos hn, hn, one_nsmul]
          exact hsum.add htwo hp
      have hsplit : S + (n % 2) • P + (n / 2) • (P + P) = S + n • P := by
        rw [← two_nsmul, ← mul_nsmul, add_assoc, ← add_nsmul, Nat.add_comm, two_mul_half]
      rw [← hsplit]
      exact ih (hp.double htwo) hbit (half_lt h)

theorem multiply (htwo : (2 : K) ≠ 0) (hp : Represents i b p P) (n : Nat) :
    Represents i b (p.multiply n) (n • P) := by
  have hall := hp.multiplyFrom htwo zero (Nat.lt_log2_self (n := n))
  rwa [zero_add] at hall

end Represents
end Point
end IdentityProof.Bn254

import Mathlib.GroupTheory.Perm.Cycle.Type
import IdentityProof.Proofs.Bn254.GroupLaw

/-! The group of the twist. Over each coordinate there are two points at most, and some prime orders
occur, whose product is more than a third of this bound. No point has order two, so this product is
the number of points. -/

namespace IdentityProof.Bn254

section Counting

variable {K : Type} [Field K] {b : K}

noncomputable def root (b x : K) : K := Classical.epsilon fun y => y * y = x * x * x + b

theorem eq_root_or_neg {x y : K} (h : y * y = x * x * x + b) : y = root b x ∨ y = -root b x := by
  have hroot : root b x * root b x = x * x * x + b :=
    Classical.epsilon_spec (p := fun z => z * z = x * x * x + b) ⟨y, h⟩
  exact mul_self_eq_mul_self_iff.mp (h.trans hroot.symm)

theorem eq_of_root {x y z : K} (hy : y * y = x * x * x + b) (hz : z * z = x * x * x + b)
    (h : y = root b x ↔ z = root b x) : y = z := by
  by_cases hroot : y = root b x
  · exact hroot.trans (h.mp hroot).symm
  · have hyneg := (eq_root_or_neg hy).resolve_left hroot
    have hzneg := (eq_root_or_neg hz).resolve_left (mt h.mpr hroot)
    exact hyneg.trans hzneg.symm

variable [DecidableEq K]

noncomputable def code : (curve b).Point → Option (K × Bool)
  | .zero => none
  | .some x y _ => some (x, y = root b x)

theorem code_injective : Function.Injective (code (b := b)) := by
  intro P Q h
  cases P with
  | zero =>
    cases Q with
    | zero => rfl
    | some => exact nomatch h
  | some x y hxy =>
    cases Q with
    | zero => exact nomatch h
    | some u v huv =>
      obtain ⟨rfl, hside⟩ := Prod.mk.inj (Option.some.inj h)
      obtain rfl := eq_of_root (equation_curve.mp hxy.1) (equation_curve.mp huv.1)
        (decide_eq_decide.mp hside)
      rfl

instance finite_points [Finite K] : Finite (curve b).Point := .of_injective code code_injective

theorem card_points_le [Finite K] : Nat.card (curve b).Point ≤ 2 * Nat.card K + 1 := by
  have hcodes := Nat.card_le_card_of_injective code (code_injective (b := b))
  have hsides : Nat.card Bool = 2 := Nat.card_eq_fintype_card
  rwa [Finite.card_option, Nat.card_prod, hsides, Nat.mul_comm] at hcodes

theorem no_order_two (htwo : (2 : K) ≠ 0) (hroot : ∀ x : K, x * x * x + b ≠ 0)
    (P : (curve b).Point) : addOrderOf P ≠ 2 := by
  intro horder
  have hzero : P + P = 0 := by rw [← two_nsmul, ← horder, addOrderOf_nsmul_eq_zero]
  cases P with
  | zero =>
    have hone : addOrderOf (0 : (curve b).Point) = 1 := addOrderOf_zero
    exact absurd (hone.symm.trans horder) (by decide)
  | some x y hxy =>
    by_cases hy : y = 0
    · have hequation := equation_curve.mp hxy.1
      rw [hy, mul_zero] at hequation
      exact hroot x hequation.symm
    · rw [WeierstrassCurve.Affine.Point.add_self_of_Y_ne (ne_negY htwo x hy)] at hzero
      exact WeierstrassCurve.Affine.Point.some_ne_zero _ hzero

end Counting

/-! ## The quadratic field -/

theorem card_quadratic : Nat.card Quadratic = fieldSize ^ 2 := by
  rw [Nat.card_congr (QuadraticAlgebra.equivProd _ _), Nat.card_prod, Nat.card_zmod, sq]

instance finite_quadratic : Finite Quadratic := .of_equiv _ (QuadraticAlgebra.equivProd _ _).symm

theorem pow_quadratic {x : Quadratic} (hx : x ≠ 0) : x ^ (fieldSize ^ 2 - 1) = 1 := by
  have := Fintype.ofFinite Quadratic
  rw [← card_quadratic, Nat.card_eq_fintype_card]
  exact FiniteField.pow_card_sub_one_eq_one x hx

theorem Fp2.value_ne_zero {a : Fp2} (h : CoordinateField.isZero a = false) : a.value ≠ 0 :=
  mt (isZero_iff a).mpr (Bool.not_eq_true _ ▸ h)

theorem two_ne_zero_quadratic : (2 : Quadratic) ≠ 0 := by
  have htwo : Fp2.value (CoordinateField.one + CoordinateField.one) = 2 := by
    rw [Fp2.value_add, Fp2.value_one, one_add_one_eq_two]
  rw [← htwo]
  exact Fp2.value_ne_zero (by decide +kernel)

def third : Nat := (fieldSize ^ 2 - 1) / 3

theorem three_mul_third : 3 * third = fieldSize ^ 2 - 1 := by decide +kernel

theorem no_cube (x : Quadratic) : x * x * x + twistConstant.value ≠ 0 := by
  intro h
  have hcube : x ^ 3 = (-twistConstant).value := by
    rw [Fp2.value_neg, eq_neg_iff_add_eq_zero, pow_succ, sq]
    exact h
  have hx : x ≠ 0 := by
    rintro rfl
    rw [zero_pow (by decide)] at hcube
    exact Fp2.value_ne_zero (by decide +kernel) hcube.symm
  have hpower : (power (-twistConstant) third).value = Fp2.value CoordinateField.one := by
    rw [map_power Fp2.value_mul Fp2.value_one, ← hcube, ← pow_mul, three_mul_third,
      pow_quadratic hx, Fp2.value_one]
  have hne : power (-twistConstant) third ≠ CoordinateField.one := by decide +kernel
  exact hne (Fp2.value_injective hpower)

/-! ## The number of points -/

abbrev Twist := (curve twistConstant.value).Point

section Affine

variable {x y : Fp2} (h : y * y = x * x * x + twistConstant)
include h

theorem value_equation : y.value * y.value =
    x.value * x.value * x.value + twistConstant.value := by
  rw [← Fp2.value_mul, h, Fp2.value_add, Fp2.value_mul, Fp2.value_mul]

theorem value_nonsingular : (curve twistConstant.value).Nonsingular x.value y.value := by
  refine nonsingular_curve two_ne_zero_quadratic (value_equation h) fun hy => ?_
  have hequation := value_equation h
  rw [hy, mul_zero] at hequation
  exact no_cube x.value hequation.symm

theorem represents_ofAffine : Point.Represents Fp2.interpretation twistConstant.value
    (.ofAffine x y) (.some x.value y.value (value_nonsingular h)) := by
  have hz : Fp2.interpretation.value (Point.ofAffine x y).z = 1 := Fp2.interpretation.one
  refine .finite ?_ ?_ ?_
  · rw [hz]
    exact one_ne_zero
  · rw [hz, mul_one]
    rfl
  · rw [hz, mul_one]
    rfl

end Affine

structure Torsion where
  prime : Nat
  x : Fp2
  y : Fp2

namespace Torsion

def check (t : Torsion) : Bool :=
  t.y * t.y == t.x * t.x * t.x + twistConstant &&
    ((Point.ofAffine t.x t.y).multiply t.prime).isInfinite

theorem dvd_card {t : Torsion} (hprime : t.prime.Prime) (h : t.check = true) :
    t.prime ∣ Nat.card Twist := by
  simp only [check, Bool.and_eq_true, beq_iff_eq] at h
  obtain ⟨hcurve, hzero⟩ := h
  have hrep := represents_ofAffine hcurve
  have hmultiple := (hrep.multiply two_ne_zero_quadratic t.prime).isInfinite_iff.mp hzero
  have : Fact t.prime.Prime := ⟨hprime⟩
  rw [← addOrderOf_eq_prime hmultiple (WeierstrassCurve.Affine.Point.some_ne_zero _)]
  exact addOrderOf_dvd_natCard _

end Torsion

def torsion : List Torsion := [
  ⟨order,
    ⟨.ofNat 10857046999023057135944570762232829481370756359578518086990519993285655852781,
      .ofNat 11559732032986387107991004021392285783925812861821192530917403151452391805634⟩,
    ⟨.ofNat 8495653923123431417604973247489272438418190587263600148770280649306958101930,
      .ofNat 4082367875863433681332203403145435568316851327593401208105741076214120093531⟩⟩,
  ⟨10069,
    ⟨.ofNat 17104313122165765134751071573954397998910742057160586741504431865092530247148,
      .ofNat 6803298140907275052193374279696798829244532018046680484422159498316181153049⟩,
    ⟨.ofNat 20929228109215085641673534002875667749781168108789068628040984026599887111329,
      .ofNat 717535573572059415844575060885625982841398457036564749994433381333260146759⟩⟩,
  ⟨5864401,
    ⟨.ofNat 18955405118131101697116283396115891806145826911743518979387621833630729329614,
      .ofNat 21377081038842675669857789698049804165397426417220946536639695353671416232086⟩,
    ⟨.ofNat 16886283992862380408087094046130554144163949442248644564049584810439117684228,
      .ofNat 2491507067080218051777633643289271283467487800244844795958777403201851547615⟩⟩,
  ⟨1875725156269,
    ⟨.ofNat 8058853716569629076274007818712502768378906892694415053401140009439649350070,
      .ofNat 4877361461370981033921653903307716539278014387038299985567108067478413134202⟩,
    ⟨.ofNat 1647777483801291712152150147767693082359564321218909578197078225989425003328,
      .ofNat 14481208640970375014906141358159202611852827475780283461471411822832361318094⟩⟩,
  ⟨197620364512881247228717050342013327560683201906968909,
    ⟨.ofNat 5379544293587944055125930410469985572658649554689213058510463639642319119551,
      .ofNat 11655412965582691416958656144298527969035951885755828283357809607099624628541⟩,
    ⟨.ofNat 672858070616423484233726484067405783508299040143129322659258792166490303851,
      .ofNat 4708129798609555730073072523138686588250107784783213608201799510208167458491⟩⟩]

theorem torsion_primes : torsion.map (·.prime) = order :: cofactorPrimes := rfl

theorem torsion_check : ∀ t ∈ torsion, t.check = true := by decide +kernel

theorem prime_of_mem_torsion {q : Nat} (h : q ∈ order :: cofactorPrimes) : q.Prime := by
  rcases List.mem_cons.mp h with rfl | hfactor
  · exact prime_order
  · exact prime_of_mem_cofactorPrimes q hfactor

theorem dvd_card_of_mem {q : Nat} (h : q ∈ order :: cofactorPrimes) : q ∣ Nat.card Twist := by
  have hprime := prime_of_mem_torsion h
  rw [← torsion_primes] at h
  obtain ⟨t, ht, rfl⟩ := List.mem_map.mp h
  exact t.dvd_card hprime (torsion_check t ht)

theorem order_mul_cofactor_dvd : order * cofactor ∣ Nat.card Twist := by
  have hnodup : (order :: cofactorPrimes).Nodup := by decide +kernel
  have hprod := Finset.prod_primes_dvd (s := (order :: cofactorPrimes).toFinset) (Nat.card Twist)
    (fun q hq => (prime_of_mem_torsion (List.mem_toFinset.mp hq)).prime)
    fun q hq => dvd_card_of_mem (List.mem_toFinset.mp hq)
  rwa [List.prod_toFinset _ hnodup, List.map_id', List.prod_cons, prod_cofactorPrimes] at hprod

theorem card_twist : Nat.card Twist = order * cofactor := by
  obtain ⟨k, hk⟩ := order_mul_cofactor_dvd
  have hbound : Nat.card Twist ≤ 2 * Nat.card Quadratic + 1 := card_points_le
  have hlarge : 2 * fieldSize ^ 2 + 1 < order * cofactor * 3 := by decide +kernel
  rw [card_quadratic, hk] at hbound
  have hthree : k < 3 := Nat.lt_of_mul_lt_mul_left (hbound.trans_lt hlarge)
  have hzero : k ≠ 0 := by
    rintro rfl
    exact Nat.card_pos.ne' (hk.trans (mul_zero _))
  have htwo : k ≠ 2 := by
    rintro rfl
    obtain ⟨P, hP⟩ := exists_prime_addOrderOf_dvd_card' 2 (hk ▸ Nat.dvd_mul_left 2 _)
    exact no_order_two two_ne_zero_quadratic no_cube P hP
  obtain rfl : k = 1 := by omega
  rw [hk, mul_one]

/-- Every point of the twist is taken to infinity by the order of the group and the cofactor. -/
theorem Point.Represents.isInfinite_multiply {p : G2} {P : Twist}
    (h : p.Represents Fp2.interpretation twistConstant.value P) :
    (p.multiply (order * cofactor)).isInfinite = true := by
  rw [(h.multiply two_ne_zero_quadratic _).isInfinite_iff, ← card_twist]
  exact card_nsmul_eq_zero'

end IdentityProof.Bn254

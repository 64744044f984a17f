import Mathlib.Algebra.QuadraticAlgebra.Basic
import Mathlib.NumberTheory.LegendreSymbol.Basic
import Mathlib.FieldTheory.Finite.Basic
import IdentityProof.Proofs.Bn254.Prime

/-! The two fields of coordinates are fields. Each element stands for one of a field of the library,
and the operations on the one are those on the other. -/

namespace IdentityProof.Bn254

structure Interpretation (F K : Type) [CoordinateField F] [Field K] where
  value : F → K
  add : ∀ a b, value (a + b) = value a + value b
  sub : ∀ a b, value (a - b) = value a - value b
  mul : ∀ a b, value (a * b) = value a * value b
  neg : ∀ a, value (-a) = -value a
  zero : value CoordinateField.zero = 0
  one : value CoordinateField.one = 1
  isZero : ∀ a, CoordinateField.isZero a = true ↔ value a = 0
  injective : Function.Injective value

attribute [simp] Interpretation.add Interpretation.sub Interpretation.mul Interpretation.neg
  Interpretation.zero Interpretation.one

instance fact_prime_fieldSize : Fact fieldSize.Prime := ⟨prime_fieldSize⟩

abbrev Base := ZMod fieldSize

namespace Fp

def value (a : Fp) : Base := (a.val : Base)

theorem value_ofNat (n : Nat) : (ofNat n).value = n := ZMod.natCast_mod n fieldSize

theorem value_add (a b : Fp) : (a + b).value = a.value + b.value :=
  (value_ofNat _).trans (Nat.cast_add _ _)

theorem value_mul (a b : Fp) : (a * b).value = a.value * b.value :=
  (value_ofNat _).trans (Nat.cast_mul _ _)

theorem natCast_fieldSize_sub (a : Fp) : ((fieldSize - a.val : Nat) : Base) = -a.value := by
  rw [Nat.cast_sub a.lt.le, ZMod.natCast_self, zero_sub]
  rfl

theorem value_neg (a : Fp) : (-a).value = -a.value :=
  (value_ofNat _).trans (natCast_fieldSize_sub a)

theorem value_sub (a b : Fp) : (a - b).value = a.value - b.value := by
  have hsum : (a - b).value = ((a.val + (fieldSize - b.val) : Nat) : Base) := value_ofNat _
  rw [hsum, Nat.cast_add, natCast_fieldSize_sub, sub_eq_add_neg]
  rfl

theorem eq_of_val {a b : Fp} (h : a.val = b.val) : a = b := by
  cases a
  cases b
  cases h
  rfl

theorem value_injective : Function.Injective value := by
  intro a b h
  have hmod := (ZMod.natCast_eq_natCast_iff' _ _ _).mp h
  rw [Nat.mod_eq_of_lt a.lt, Nat.mod_eq_of_lt b.lt] at hmod
  exact eq_of_val hmod

theorem isZero_iff (a : Fp) : CoordinateField.isZero a = true ↔ a.value = 0 := by
  have hzero : CoordinateField.isZero a = true ↔ a.val = 0 := beq_iff_eq
  rw [hzero]
  constructor
  · intro h
    rw [value, h, Nat.cast_zero]
  · intro h
    have hmod := (ZMod.natCast_eq_zero_iff a.val fieldSize).mp h
    exact Nat.eq_zero_of_dvd_of_lt hmod a.lt

def interpretation : Interpretation Fp Base where
  value := value
  add := value_add
  sub := value_sub
  mul := value_mul
  neg := value_neg
  zero := (value_ofNat 0).trans Nat.cast_zero
  one := (value_ofNat 1).trans Nat.cast_one
  isZero := isZero_iff
  injective := value_injective

end Fp

/-! ## The quadratic field -/

instance fact_no_root : Fact (∀ r : Base, r ^ 2 ≠ -1 + 0 * r) := by
  refine ⟨fun r h => ?_⟩
  have hsquare : IsSquare (-1 : Base) := ⟨r, by rw [← sq, h, zero_mul, add_zero]⟩
  exact ZMod.exists_sq_eq_neg_one_iff.mp hsquare (by decide +kernel)

abbrev Quadratic := QuadraticAlgebra Base (-1) 0

namespace Fp2

def value (a : Fp2) : Quadratic := ⟨a.re.value, a.im.value⟩

theorem value_add (a b : Fp2) : (a + b).value = a.value + b.value :=
  QuadraticAlgebra.ext (Fp.value_add a.re b.re) (Fp.value_add a.im b.im)

theorem value_neg (a : Fp2) : (-a).value = -a.value :=
  QuadraticAlgebra.ext (Fp.value_neg a.re) (Fp.value_neg a.im)

theorem value_one : value CoordinateField.one = 1 :=
  QuadraticAlgebra.ext Fp.interpretation.one Fp.interpretation.zero

theorem value_mul (a b : Fp2) : (a * b).value = a.value * b.value := by
  have hre : (a * b).re = a.re * b.re - a.im * b.im := rfl
  have him : (a * b).im = (a.re + a.im) * (b.re + b.im) - a.re * b.re - a.im * b.im := rfl
  apply QuadraticAlgebra.ext
  · simp only [value, hre, Fp.value_sub, Fp.value_mul, QuadraticAlgebra.re_mul]
    ring
  · simp only [value, him, Fp.value_sub, Fp.value_mul, Fp.value_add, QuadraticAlgebra.im_mul]
    ring

theorem value_injective : Function.Injective value := by
  intro a b h
  obtain ⟨hre, him⟩ := QuadraticAlgebra.mk.inj h
  cases a
  cases b
  cases Fp.value_injective hre
  cases Fp.value_injective him
  rfl

theorem isZero_iff (a : Fp2) : CoordinateField.isZero a = true ↔ a.value = 0 := by
  have hparts : CoordinateField.isZero a = true ↔
      CoordinateField.isZero a.re = true ∧ CoordinateField.isZero a.im = true := Bool.and_eq_true_iff
  rw [hparts, Fp.isZero_iff, Fp.isZero_iff]
  exact (QuadraticAlgebra.ext_iff (x := a.value) (y := 0)).symm

def interpretation : Interpretation Fp2 Quadratic where
  value := value
  add := value_add
  sub a b := QuadraticAlgebra.ext (Fp.value_sub a.re b.re) (Fp.value_sub a.im b.im)
  mul := value_mul
  neg := value_neg
  zero := QuadraticAlgebra.ext Fp.interpretation.zero Fp.interpretation.zero
  one := value_one
  isZero := isZero_iff
  injective := value_injective

end Fp2
end IdentityProof.Bn254

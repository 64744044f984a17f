import IdentityProof.Json.Text
import IdentityProof.Proofs.Fault

/-! Values that stand for integers: their order, and the integers that have no text. -/

namespace IdentityProof

/-- The integer has more digits than are written. -/
def Integer.IsUnwritable (n : Int) : Prop := Nat.pow 10 digitLimit ≤ n.natAbs

theorem Json.isError_integerText {n : Int} : IsError (integerText n) ↔ Integer.IsUnwritable n := by
  unfold integerText Integer.text? Integer.IsUnwritable
  by_cases h : Nat.pow 10 Integer.digitLimit ≤ n.natAbs
  · rw [if_pos h]
    exact iff_of_true isError_error h
  · rw [if_neg h]
    exact iff_of_false not_isError_ok h

theorem Json.toInteger_cases {value : Json} {n : Int} (h : value.toInteger = .ok n) :
    value = .int n ∨ ∃ b : Bool, value = .bool b ∧ n = if b then 1 else 0 := by
  unfold toInteger at h
  split at h
  · obtain rfl := Except.ok.inj h
    exact .inl rfl
  · exact .inr ⟨_, rfl, (Except.ok.inj h).symm⟩
  · exact nomatch h

/-- The limit stays a variable here, since the power is too large to be computed. -/
theorem Integer.natAbs_lt_pow {limit : Nat} (hlimit : limit ≠ 0) {n : Int} (h : n.natAbs ≤ 1) :
    ¬ Nat.pow 10 limit ≤ n.natAbs :=
  Nat.not_le.mpr (Nat.lt_of_le_of_lt h (Nat.one_lt_pow hlimit (by decide)))

theorem Integer.pow_le_natAbs (limit : Nat) : Nat.pow 10 limit ≤ (Nat.pow 10 limit : Int).natAbs :=
  Nat.le_refl _

theorem Integer.isUnwritable_pow : IsUnwritable (Nat.pow 10 digitLimit) :=
  pow_le_natAbs digitLimit

theorem Integer.not_isUnwritable_bool {b : Bool} : ¬ IsUnwritable (if b then 1 else 0) :=
  natAbs_lt_pow (by decide : digitLimit ≠ 0) (by cases b <;> decide)

theorem Json.isError_shown {value : Json} {n : Int} (h : value.toInteger = .ok n) :
    IsError value.shown ↔ Integer.IsUnwritable n := by
  rcases toInteger_cases h with rfl | ⟨b, rfl, rfl⟩
  · rw [← isError_integerText]
    simp only [Json.int, shown, quoted]
  · exact iff_of_false not_isError_ok Integer.not_isUnwritable_bool

theorem Json.int_greater {a n : Int} {value : Json} (h : value.toInteger = .ok n) :
    (Json.int a).greater value = .ok (decide (n < a)) := by
  have hcompare : ∀ m : Int, (compare a m == .gt) = decide (m < a) := by
    intro m
    rcases Int.lt_trichotomy a m with hlt | rfl | hgt
    · simp [compare, compareOfLessAndEq, hlt, Int.lt_asymm hlt]
    · simp [compare, compareOfLessAndEq]
    · simp [compare, compareOfLessAndEq, Int.lt_asymm hgt, Int.ne_of_gt hgt, hgt]
  rcases toInteger_cases h with rfl | ⟨b, rfl, rfl⟩
  · simp only [Json.int, greater, toNumber?]
    exact congrArg Except.ok ((hcompare n))
  · cases b <;> exact congrArg Except.ok (hcompare _)

end IdentityProof

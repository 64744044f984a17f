import IdentityProof.Json.Value
import IdentityProof.Proofs.Fault

/-! The values that count as false, one by one. -/

namespace IdentityProof

theorem Number.isNonzero_int {n : Int} : (Number.int n).isNonzero = true ↔ n ≠ 0 := by
  simp only [isNonzero, compare?, bne_iff_ne, ne_eq, Option.some.injEq]
  exact not_congr Std.LawfulEqCmp.compare_eq_iff_eq

theorem Binary64.units_eq_zero {negative : Bool} {m s : Nat} :
    (finite negative m s).units? = some 0 ↔ m = 0 := by
  have hpow : Nat.pow 2 s ≠ 0 := Nat.pos_iff_ne_zero.mp (Nat.pow_pos (by decide))
  have hsize : ((m * Nat.pow 2 s : Nat) : Int) = 0 ↔ m = 0 := by
    rw [Int.natCast_eq_zero, Nat.mul_eq_zero, or_iff_left hpow]
  unfold units?
  cases negative with
  | false => exact Option.some_inj.trans hsize
  | true => exact Option.some_inj.trans (Int.neg_eq_zero.trans hsize)

theorem Number.isNonzero_finite {negative : Bool} {m s : Nat} :
    (Number.float (.finite negative m s)).isNonzero = true ↔ m ≠ 0 := by
  obtain ⟨u, hu⟩ : ∃ u, (Binary64.finite negative m s).units? = some u := ⟨_, rfl⟩
  have hcompare : (Number.float (.finite negative m s)).compare? (.int 0) =
      some (compare u (0 * (Binary64.unitsPerOne : Int))) := by
    simp only [compare?, hu]
  change (compare? _ (.int 0) != some .eq) = true ↔ _
  rw [hcompare, Int.zero_mul, bne_iff_ne, ne_eq, Option.some_inj, Std.LawfulEqCmp.compare_eq_iff_eq,
    ← Option.some_inj, ← hu, Binary64.units_eq_zero]

/-- The values that count as false. -/
inductive Json.Falsy : Json → Prop where
  | null : Falsy .null
  | false : Falsy (.bool false)
  | zero : Falsy (.number (.int 0))
  | floatZero (negative : Bool) (scale : Nat) : Falsy (.number (.float (.finite negative 0 scale)))
  | emptyText : Falsy (.text "")
  | emptyArray : Falsy (.array [])
  | emptyObject : Falsy (.object [])

theorem Json.isGiven_iff {value : Json} : value.isGiven = true ↔ ¬ value.Falsy := by
  cases value with
  | null => exact iff_of_false nofun (not_not_intro .null)
  | bool b =>
    cases b with
    | false => exact iff_of_false nofun (not_not_intro .false)
    | true => exact iff_of_true rfl nofun
  | number n =>
    cases n with
    | int n =>
      refine Number.isNonzero_int.trans (not_congr ⟨?_, ?_⟩)
      · rintro rfl
        exact .zero
      · rintro ⟨⟩
        rfl
    | float x =>
      cases x with
      | nan => exact iff_of_true rfl nofun
      | infinity negative => exact iff_of_true (by cases negative <;> rfl) nofun
      | finite negative m s =>
        refine Number.isNonzero_finite.trans (not_congr ⟨?_, ?_⟩)
        · rintro rfl
          exact .floatZero negative s
        · rintro ⟨⟩
          rfl
  | text s =>
    refine bne_iff_ne.trans (not_congr ⟨?_, ?_⟩)
    · rintro rfl
      exact .emptyText
    · rintro ⟨⟩
      rfl
  | array items =>
    cases items with
    | nil => exact iff_of_false nofun (not_not_intro .emptyArray)
    | cons item items => exact iff_of_true rfl nofun
  | object members =>
    cases members with
    | nil => exact iff_of_false nofun (not_not_intro .emptyObject)
    | cons m members => exact iff_of_true rfl nofun

end IdentityProof

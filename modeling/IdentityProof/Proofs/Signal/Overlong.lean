import IdentityProof.Proofs.Fault
import IdentityProof.Rule.Basic

/-! Signals that cannot be read. A decimal with more digits than the limit has no value, and no
bytes, text or date can be taken from it. -/

namespace IdentityProof

/-- The text is a decimal of more digits than are read. -/
def Overlong (signal : String) : Prop :=
  ∃ digits, decimalDigits? signal.toList = some digits ∧ Integer.digitLimit < digits.length

theorem isError_parseDecimal {signal : String} : IsError (parseDecimal signal) ↔ Overlong signal := by
  unfold parseDecimal Overlong
  cases decimalDigits? signal.toList with
  | none => simp [not_isError_ok]
  | some digits =>
    by_cases h : Integer.digitLimit < digits.length
    · simp [h, isError_error]
    · simp [h, not_isError_ok]

theorem not_overlong_iff {signal : String} :
    ¬ Overlong signal ↔ ∃ n?, parseDecimal signal = .ok n? := by
  rw [← isError_parseDecimal, not_isError_iff]

theorem isError_unpack {signal : String} : IsError (Packing.unpack signal) ↔ Overlong signal := by
  rw [← isError_parseDecimal]
  refine isError_bind_of_forall_not fun n? => ?_
  cases n? <;> exact not_isError_pure

theorem isError_unpackText {signal : String} :
    IsError (Packing.unpackText signal) ↔ Overlong signal :=
  (isError_bind_of_forall_not fun _ => not_isError_pure).trans isError_unpack

theorem PackedDate.meetsFault_unpack {signal : String} :
    MeetsFault (PackedDate.unpack signal) ↔ Overlong signal := by
  unfold PackedDate.unpack
  rw [meetsFault_bind, Fault.meetsFault_lift, isError_parseDecimal, or_iff_left_iff_imp]
  rintro ⟨n?, -, h⟩
  cases n? with
  | none => exact absurd h not_meetsFault_refused
  | some n =>
    rcases meetsFault_bind.mp h with h | ⟨text, -, h⟩
    · exact isError_unpackText.mp (Fault.meetsFault_lift.mp h)
    · cases hp : PackedDate.parse text with
      | ok date =>
        rw [hp] at h
        exact absurd h not_meetsFault_ok
      | error why =>
        rw [hp] at h
        exact absurd h not_meetsFault_refused

theorem Overlong.ne_empty {signal : String} (h : Overlong signal) : signal ≠ "" := by
  rintro rfl
  obtain ⟨digits, hd, -⟩ := h
  exact nomatch hd

theorem Overlong.isUnset_eq_false {signal : String} (h : Overlong signal) :
    PackedDate.isUnset signal = false := by
  have hreads : ∀ short, parseDecimal short = .ok (some 0) ∨
      parseDecimal short = .ok (some 52983525027888) → signal ≠ short := by
    rintro short hs rfl
    obtain ⟨f, hf⟩ := isError_parseDecimal.mpr h
    rcases hs with hs | hs <;> exact nomatch hf.symm.trans hs
  unfold PackedDate.isUnset
  rw [Bool.or_eq_false_iff, beq_eq_false_iff_ne, beq_eq_false_iff_ne]
  exact ⟨hreads "0" (.inl rfl), hreads PackedDate.unset (.inr rfl)⟩

theorem overlong_replicate {count : Nat} (h : Integer.digitLimit < count) :
    Overlong (String.ofList (List.replicate count '1')) := by
  have hdigit : isDecimalDigit '1' = true := rfl
  have hne : count ≠ 0 := Nat.ne_of_gt (Nat.zero_lt_of_lt h)
  refine ⟨List.replicate count '1', ?_, by rwa [List.length_replicate]⟩
  rw [String.toList_ofList]
  simp [decimalDigits?, hdigit, hne]

end IdentityProof

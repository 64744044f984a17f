import IdentityProof.Calendar.Moment
import IdentityProof.Proofs.Fault

/-! Moments shifted by days and years. A shift has a result as long as it stays within the years of
the calendar. -/

namespace IdentityProof

theorem le_daysInMonth (year month : Nat) : 28 ≤ daysInMonth year month := by
  unfold daysInMonth
  split
  · split <;> decide
  all_goals decide

namespace Date

theorem exists_next {d : Date} (h : d.year < 9999) : ∃ tomorrow, d.next? = some tomorrow := by
  obtain ⟨hy, -, hm, hm', hd, -⟩ := d.valid
  have hmonth := le_daysInMonth d.year (d.month + 1)
  have hyear := le_daysInMonth (d.year + 1) 1
  refine ⟨_, dif_pos ?_⟩
  split
  · exact (⟨hy, by omega, hm, hm', by omega, by omega⟩ : IsDay d.year d.month (d.day + 1))
  · split
    · exact (⟨hy, by omega, by omega, by omega, by omega, by omega⟩ : IsDay d.year (d.month + 1) 1)
    · exact (⟨by omega, by omega, by omega, by omega, by omega, by omega⟩ : IsDay (d.year + 1) 1 1)

theorem exists_previous {d : Date} (h : 1 < d.year) : ∃ yesterday, d.previous? = some yesterday := by
  obtain ⟨hy, hy', hm, hm', -, hd⟩ := d.valid
  have hmonth := le_daysInMonth d.year (d.month - 1)
  have hlast : 31 ≤ daysInMonth (d.year - 1) 12 := Nat.le_refl 31
  refine ⟨_, dif_pos ?_⟩
  split
  · exact (⟨hy, hy', hm, hm', by omega, by omega⟩ : IsDay d.year d.month (d.day - 1))
  · split
    · exact (⟨hy, hy', by omega, by omega, by omega, Nat.le_refl _⟩ :
        IsDay d.year (d.month - 1) (daysInMonth d.year (d.month - 1)))
    · exact (⟨by omega, by omega, by omega, by omega, by omega, hlast⟩ : IsDay (d.year - 1) 12 31)

theorem ofNumbers_of_isDay {year month day : Int} (h : IsDay year.toNat month.toNat day.toNat) :
    ofNumbers year month day = .ok ⟨year.toNat, month.toNat, day.toNat, h⟩ := dif_pos h

theorem isError_ofNumbers {year month day : Int} (h : year < 1) :
    IsError (ofNumbers year month day) := by
  have hno : ¬ IsDay year.toNat month.toNat day.toNat := fun hd => by
    have := hd.1
    omega
  unfold ofNumbers
  rw [dif_neg hno, if_pos (by simp [h])]
  exact isError_error

theorem word_of_year {n : Int} (h : 1 ≤ n) (h' : n ≤ 9999) : word n = .ok n := by
  have hfits : Integer.fitsWord 0x8000000000000000 n = true := by
    simp only [Integer.fitsWord, Bool.and_eq_true, decide_eq_true_eq]
    omega
  unfold word
  rw [hfits, if_neg (by decide), if_neg (by omega), if_neg (by omega)]

theorem word_eq_ok {n m : Int} (h : word n = .ok m) : m = n := by
  unfold word at h
  split at h
  · exact nomatch h
  · split at h
    · exact nomatch h
    · split at h
      · exact nomatch h
      · exact (Except.ok.inj h).symm

end Date

namespace Moment

theorem not_isError_nextDay {m : Moment} (h : m.date.year < 9999) : ¬ IsError m.nextDay := by
  obtain ⟨date, hd⟩ := Date.exists_next h
  unfold nextDay
  rw [hd]
  exact not_isError_ok

theorem not_isError_previousDay {m : Moment} (h : 1 < m.date.year) : ¬ IsError m.previousDay := by
  obtain ⟨date, hd⟩ := Date.exists_previous h
  unfold previousDay
  rw [hd]
  exact not_isError_ok

theorem isError_inYear {m : Moment} {year : Int} (h : year ≤ 9999) :
    IsError (m.inYear year) ↔ year < 1 := by
  constructor
  · rintro ⟨e, he⟩
    refine Int.not_le.mp fun hyear => ?_
    unfold inYear at he
    rcases bind_eq_error.mp he with hw | ⟨y, hy, hm⟩
    · exact nomatch (Date.word_of_year hyear h).symm.trans hw
    · obtain rfl := Date.word_eq_ok hy
      split at hm
      · exact nomatch hm
      · have hlast := le_daysInMonth y.toNat 3
        have hmarch : IsDay y.toNat 3 1 :=
          ⟨by omega, by omega, by decide, by decide, by decide, by omega⟩
        have hstand : Date.ofNumbers y 3 1 = .ok _ := Date.ofNumbers_of_isDay hmarch
        rw [hstand] at hm
        exact nomatch hm
  · intro hyear
    unfold inYear
    refine (isError_bind fun y hy => iff_true_intro ?_).mpr (.inr trivial)
    obtain rfl := Date.word_eq_ok hy
    split
    · rename_i date hd
      exact absurd (hd ▸ Date.isError_ofNumbers hyear) not_isError_ok
    · have hmarch : IsError (Date.ofNumbers y 3 1) := Date.isError_ofNumbers hyear
      obtain ⟨e, he⟩ := hmarch
      rw [he]
      exact isError_error

theorem isError_yearsAgo {now : Moment} {years : Nat} :
    IsError (now.yearsAgo years) ↔ now.date.year ≤ years := by
  have hyear := now.date.valid.2.1
  unfold yearsAgo
  rw [isError_inYear (by omega)]
  omega

end Moment
end IdentityProof

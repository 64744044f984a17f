import IdentityProof.Proofs.Calendar.Anniversary
import IdentityProof.Proofs.Rule.Refusal

/-! Ages shown by a birth date. The rule compares the date with the day some years ago, which is to
ask for completed years of life, the eve of a first of March apart. -/

namespace IdentityProof

theorem DateMode.not_refuses_before {point : Moment} {date : Date} :
    ¬ DateMode.before.Refuses point date ↔ date.key ≤ point.date.key :=
  Nat.not_lt.trans Moment.midnight_le_iff

namespace Rule

theorem before_check_eq_ok {point : Moment} {s : String} :
    (Rule.date .before point).check (.text s) = .ok () ↔
      ∃ date, PackedDate.unpack s = .ok date ∧ date.key ≤ point.date.key := by
  rw [date_check_eq_ok]
  simp only [DateMode.not_refuses_before]

/-- A birth date passes when its holder has completed the years today. On a 29th of February the
first of March of a year without that day passes too, one day before the years are completed. -/
theorem birthDate_passes_iff {now : Moment} {years : Nat} (h : years < now.date.year) :
    ∃ cutoff, now.yearsAgo years = .ok cutoff ∧ ∀ signal,
      (Rule.date .before cutoff).check (.text signal) = .ok () ↔
        ∃ birth, PackedDate.unpack signal = .ok birth ∧
          (birth.Completed years now.date ∨ birth.LeapEve years now.date) := by
  obtain ⟨cutoff, hcutoff, hbefore⟩ := Moment.yearsAgo_of_lt h
  refine ⟨cutoff, hcutoff, fun signal => ?_⟩
  rw [before_check_eq_ok]
  simp only [hbefore.key_le_iff]

def leapDay : Moment := .midnight ⟨2024, 2, 29, by decide⟩

theorem birthDate_passes_on_leapDay :
    18 < leapDay.date.year ∧ ∃ cutoff, leapDay.yearsAgo 18 = .ok cutoff ∧
      (Rule.date .before cutoff).check (.text "53009294963256") = .ok () := by
  have hyear : 18 < leapDay.date.year := by decide
  obtain ⟨cutoff, hcutoff, hpasses⟩ := birthDate_passes_iff hyear
  have hbirth : PackedDate.unpack "53009294963256" = .ok ⟨2006, 2, 28, by decide⟩ := rfl
  exact ⟨hyear, cutoff, hcutoff, (hpasses _).mpr ⟨_, hbirth, .inl (by decide)⟩⟩

/-- Born on the first of March 2006, and seventeen on the 29th of February 2024. -/
theorem minor_passes_on_leapDay :
    ∃ cutoff birth, leapDay.yearsAgo 18 = .ok cutoff ∧
      (Rule.date .before cutoff).check (.text "53009295028273") = .ok () ∧
        PackedDate.unpack "53009295028273" = .ok birth ∧ ¬ birth.Completed 18 leapDay.date := by
  let birth : Date := ⟨2006, 3, 1, by decide⟩
  have hcutoff : leapDay.yearsAgo 18 = .ok (.midnight birth) := rfl
  have hbirth : PackedDate.unpack "53009295028273" = .ok birth := rfl
  have hpasses : (Rule.date .before (.midnight birth)).check (.text "53009295028273") = .ok () :=
    before_check_eq_ok.mpr ⟨birth, hbirth, Nat.le_refl birth.key⟩
  have hyoung : ¬ birth.Completed 18 leapDay.date := by decide
  exact ⟨.midnight birth, birth, hcutoff, hpasses, hbirth, hyoung⟩

end Rule
end IdentityProof

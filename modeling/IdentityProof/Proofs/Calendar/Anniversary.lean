import IdentityProof.Proofs.Calendar.Shift

/-! Completed years of life, and the day some years ago. The two part on one day alone: seen from a
29th of February, the day in a year without one is the first of March. -/

namespace IdentityProof

theorem daysInMonth_le (year month : Nat) : daysInMonth year month ≤ 31 := by
  unfold daysInMonth
  split
  · split <;> decide
  all_goals decide

theorem day_of_missing {year other month day : Nat} (h : day ≤ daysInMonth year month)
    (hno : ¬ day ≤ daysInMonth other month) :
    month = 2 ∧ day = 29 ∧ isLeapYear other = false := by
  have hmonth : month = 2 := by
    refine Classical.byContradiction fun hne => hno ?_
    have hsame : daysInMonth other month = daysInMonth year month := by
      unfold daysInMonth
      split
      · exact absurd rfl hne
      all_goals rfl
    rwa [hsame]
  subst hmonth
  simp only [daysInMonth] at h hno
  cases hleap : isLeapYear other with
  | true =>
    rw [hleap] at hno
    split at h <;> simp at hno <;> omega
  | false =>
    rw [hleap] at hno
    split at h <;> simp at hno <;> exact ⟨rfl, by omega, rfl⟩

namespace Date

theorem month_day_le (d : Date) : 1 ≤ d.month ∧ d.month ≤ 12 ∧ 1 ≤ d.day ∧ d.day ≤ 31 := by
  obtain ⟨-, -, hm, hm', hd, hd'⟩ := d.valid
  exact ⟨hm, hm', hd, Nat.le_trans hd' (daysInMonth_le _ _)⟩

theorem key_le_key {d e : Date} : d.key ≤ e.key ↔ d.year < e.year ∨
    (d.year = e.year ∧ (d.month < e.month ∨ (d.month = e.month ∧ d.day ≤ e.day))) := by
  have hd := d.month_day_le
  have he := e.month_day_le
  unfold key
  omega

theorem day_le_of_february {d : Date} (h : d.month = 2) :
    d.day ≤ 29 ∧ (isLeapYear d.year = false → d.day ≤ 28) := by
  obtain ⟨-, -, -, -, -, hday⟩ := d.valid
  rw [h] at hday
  simp only [daysInMonth] at hday
  cases hleap : isLeapYear d.year <;> rw [hleap] at hday <;> simp at hday ⊢ <;> omega

theorem eq_of_fields {d e : Date} (hy : d.year = e.year) (hm : d.month = e.month)
    (hd : d.day = e.day) : d = e := by
  cases d
  cases e
  cases hy
  cases hm
  cases hd
  rfl

theorem word_of_day {year month day : Nat} (h : IsDay year month day) :
    word year = .ok (year : Int) := by
  obtain ⟨hfirst, hlast, -⟩ := h
  exact word_of_year (by omega) (by omega)

theorem ofNumbers_of_day {year month day : Nat} (h : IsDay year month day) :
    ofNumbers year month day = .ok ⟨year, month, day, h⟩ := @ofNumbers_of_isDay year month day h

theorem isError_ofNumbers_of_no_day {year month day : Nat} (h : ¬ IsDay year month day) :
    IsError (ofNumbers year month day) := by
  have hno : ¬ IsDay (year : Int).toNat (month : Int).toNat (day : Int).toNat := h
  unfold ofNumbers
  rw [dif_neg hno]
  split
  · exact isError_error
  · split <;> exact isError_error

/-- Who was born on the day has completed the years on the other one. -/
def Completed (birth : Date) (years : Nat) (today : Date) : Prop :=
  birth.year + years < today.year ∨
    (birth.year + years = today.year ∧
      (birth.month < today.month ∨ (birth.month = today.month ∧ birth.day ≤ today.day)))

instance (birth : Date) (years : Nat) (today : Date) : Decidable (birth.Completed years today) :=
  inferInstanceAs (Decidable (_ ∨ _))

/-- The years will be completed on the first of March, which is tomorrow, but the year of birth had
no 29th of February. -/
def LeapEve (birth : Date) (years : Nat) (today : Date) : Prop :=
  today.month = 2 ∧ today.day = 29 ∧ isLeapYear birth.year = false ∧
    birth.year + years = today.year ∧ birth.month = 3 ∧ birth.day = 1

structure IsYearsBefore (d : Date) (years : Nat) (today : Date) : Prop where
  year : d.year + years = today.year
  day : (d.month = today.month ∧ d.day = today.day) ∨
    (today.month = 2 ∧ today.day = 29 ∧ isLeapYear d.year = false ∧ d.month = 3 ∧ d.day = 1)

theorem IsYearsBefore.key_le_iff {d today : Date} {years : Nat} (h : d.IsYearsBefore years today)
    (birth : Date) :
    birth.key ≤ d.key ↔ birth.Completed years today ∨ birth.LeapEve years today := by
  have hyear := h.year
  have hbirth := birth.month_day_le
  rw [key_le_key]
  unfold Completed LeapEve
  rcases h.day with ⟨hm, hd⟩ | ⟨hm, hd, hleap, hmarch, hfirst⟩
  · have heve : ¬ (today.month = 2 ∧ today.day = 29 ∧ isLeapYear d.year = false) := by
      rintro ⟨hm', hd', hleap⟩
      have hlast := (day_le_of_february (hm.trans hm')).2 hleap
      omega
    rw [hm, hd]
    constructor
    · intro hle
      exact .inl (by omega)
    · rintro (hdone | ⟨hm', hd', hleap, hsum, -⟩)
      · omega
      · obtain hsame : birth.year = d.year := by omega
        exact absurd ⟨hm', hd', hsame ▸ hleap⟩ heve
  · have hfebruary := fun h => (day_le_of_february (d := birth) h).1
    rw [hm, hd, hmarch, hfirst]
    constructor
    · intro hle
      by_cases heve : birth.year = d.year ∧ birth.month = 3
      · obtain ⟨hsame, hthird⟩ := heve
        exact .inr ⟨rfl, rfl, hsame ▸ hleap, by omega, hthird, by omega⟩
      · exact .inl (by omega)
    · rintro (hdone | ⟨-, -, -, hsum, hthird, hone⟩) <;> omega

theorem IsYearsBefore.key_le_key {d e now later : Date} {years fewer : Nat}
    (hd : d.IsYearsBefore years now) (he : e.IsYearsBefore fewer later)
    (htime : now.key ≤ later.key) (hage : fewer ≤ years) : d.key ≤ e.key := by
  have hyear := hd.year
  have hyear' := he.year
  rw [Date.key_le_key] at htime ⊢
  rcases Nat.lt_or_ge d.year e.year with hlt | hge
  · exact .inl hlt
  · have hsame : d.year = e.year := by omega
    have hnow : now.year = later.year := by omega
    refine .inr ⟨hsame, ?_⟩
    rcases hd.day with ⟨hm, hday⟩ | ⟨hm, hday, hleap, hmarch, hfirst⟩
    · rcases he.day with ⟨hm', hday'⟩ | ⟨hm', hday', -, hmarch', hfirst'⟩ <;> omega
    · rcases he.day with ⟨hm', hday'⟩ | ⟨-, -, -, hmarch', hfirst'⟩
      · have hshort (h : e.month = 2) : e.day ≤ 28 := (day_le_of_february h).2 (hsame ▸ hleap)
        have hfields := e.month_day_le
        omega
      · omega

end Date

namespace Moment

theorem date_key_le {now later : Moment} (h : now ≤ later) : now.date.key ≤ later.date.key := by
  have hnow := now.micros_lt
  have hlater := later.micros_lt
  change now.date.key * microsPerDay + now.micros ≤ later.date.key * microsPerDay + later.micros at h
  unfold microsPerDay microsPerSecond at *
  omega

theorem midnight_le_iff {date : Date} {m : Moment} : midnight date ≤ m ↔ date.key ≤ m.date.key := by
  have hmicros := m.micros_lt
  change date.key * microsPerDay + 0 ≤ m.date.key * microsPerDay + m.micros ↔ _
  unfold microsPerDay microsPerSecond at *
  omega

theorem inYear_of_day {m : Moment} {year : Nat} (h : IsDay year m.date.month m.date.day) :
    m.inYear year = .ok { m with date := ⟨year, m.date.month, m.date.day, h⟩ } := by
  have hword := Date.word_of_day h
  have hsame := Date.ofNumbers_of_day h
  unfold inYear
  rw [hword]
  simp only [bind, Except.bind, hsame]
  rfl

theorem inYear_of_no_day {m : Moment} {year : Nat} (h : ¬ IsDay year m.date.month m.date.day)
    (hmarch : IsDay year 3 1) : m.inYear year = .ok { m with date := ⟨year, 3, 1, hmarch⟩ } := by
  have hword := Date.word_of_day hmarch
  have hfirst : Date.ofNumbers year 3 1 = .ok ⟨year, 3, 1, hmarch⟩ := Date.ofNumbers_of_day hmarch
  obtain ⟨e, hmissing⟩ := Date.isError_ofNumbers_of_no_day h
  unfold inYear
  rw [hword]
  simp only [bind, Except.bind, hmissing, hfirst]
  rfl

theorem yearsAgo_of_lt {now : Moment} {years : Nat} (h : years < now.date.year) :
    ∃ cutoff, now.yearsAgo years = .ok cutoff ∧ cutoff.date.IsYearsBefore years now.date := by
  have hlast := now.date.valid.2.1
  obtain ⟨year, hyear⟩ : ∃ year : Nat, (now.date.year : Int) - years = year :=
    ⟨now.date.year - years, by omega⟩
  have hsum : year + years = now.date.year := by omega
  unfold yearsAgo
  rw [hyear]
  by_cases hday : IsDay year now.date.month now.date.day
  · exact ⟨_, inYear_of_day hday, hsum, .inl ⟨rfl, rfl⟩⟩
  · obtain ⟨-, -, hm, hm', hd, hd'⟩ := now.date.valid
    have hshort : ¬ now.date.day ≤ daysInMonth year now.date.month := fun hle =>
      hday ⟨by omega, by omega, hm, hm', hd, hle⟩
    obtain ⟨hfebruary, h29, hleap⟩ := day_of_missing hd' hshort
    have hone : 1 ≤ daysInMonth year 3 := Nat.le_trans (by decide) (le_daysInMonth year 3)
    have hmarch : IsDay year 3 1 := ⟨by omega, by omega, by decide, by decide, by decide, hone⟩
    exact ⟨_, inYear_of_no_day hday hmarch, hsum, .inr ⟨hfebruary, h29, hleap, rfl, rfl⟩⟩

end Moment
end IdentityProof

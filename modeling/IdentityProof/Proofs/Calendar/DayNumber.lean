import IdentityProof.Proofs.Calendar.Timestamp

/-! Days counted from the first of January of the year 1. The count gives back the day that it was
made of, so it keeps the order of the days, and it grows by one from each day to the next. -/

namespace IdentityProof.Date

variable {length : Nat → Nat} {fuel part count left : Nat}

theorem daysInParts_succ (length : Nat → Nat) (count part : Nat) :
    daysInParts length (count + 1) part = daysInParts length count part + length (part + count) := by
  induction count generalizing part with
  | zero => exact Nat.add_comm _ _
  | succ count ih =>
    rw [daysInParts, ih, daysInParts, Nat.add_assoc, Nat.add_assoc, Nat.add_comm 1 count]

theorem daysInParts_mono {more : Nat} (h : count ≤ more) :
    daysInParts length count part ≤ daysInParts length more part := by
  induction h with
  | refl => exact Nat.le_refl _
  | step _ ih =>
    rw [daysInParts_succ]
    exact Nat.le_add_right_of_le ih

theorem splitParts_within (hcount : count < fuel) (hleft : left < length (part + count)) :
    splitParts length fuel part (daysInParts length count part + left) = (part + count, left) := by
  induction count generalizing fuel part with
  | zero =>
    obtain ⟨fuel, rfl⟩ := Nat.exists_eq_add_one.mpr hcount
    rw [daysInParts, Nat.zero_add, splitParts]
    exact if_pos hleft
  | succ count ih =>
    obtain ⟨fuel, rfl⟩ := Nat.exists_eq_add_one.mpr (Nat.zero_lt_of_lt hcount)
    have hpart : part + (count + 1) = part + 1 + count := by omega
    have hnot : ¬ length part + daysInParts length count (part + 1) + left < length part := by omega
    have hrest : length part + daysInParts length count (part + 1) + left - length part =
        daysInParts length count (part + 1) + left := by omega
    rw [hpart] at hleft
    rw [daysInParts, splitParts, if_neg hnot, hrest, hpart]
    exact ih (by omega) hleft

theorem daysInYear_add_cycles (cycles year : Nat) :
    daysInYear (cycles * 400 + year) = daysInYear year := by
  have hsame : daysInMonth (cycles * 400 + year) = daysInMonth year :=
    funext fun month => daysInMonth_add_cycles cycles year month
  rw [← daysInParts_year, ← daysInParts_year, hsame]

theorem daysInParts_add_cycle (years : Nat) :
    daysInParts daysInYear (400 + years) 1 = daysInCycle + daysInParts daysInYear years 1 := by
  induction years with
  | zero => rw [Nat.add_zero, daysInParts_cycle, daysInParts, Nat.add_zero]
  | succ years ih =>
    have hsame : daysInYear (1 + (400 + years)) = daysInYear (1 + years) := by
      rw [Nat.add_left_comm, daysInYear_add_cycles 1]
    rw [← Nat.add_assoc, daysInParts_succ, ih, hsame, daysInParts_succ, Nat.add_assoc]

theorem daysInParts_add_cycles (cycles years : Nat) :
    daysInParts daysInYear (cycles * 400 + years) 1 =
      cycles * daysInCycle + daysInParts daysInYear years 1 := by
  induction cycles with
  | zero => rw [Nat.zero_mul, Nat.zero_mul, Nat.zero_add, Nat.zero_add]
  | succ cycles ih =>
    have hcycle : (cycles + 1) * 400 + years = 400 + (cycles * 400 + years) := by omega
    rw [hcycle, daysInParts_add_cycle, ih, Nat.succ_mul]
    omega

def dayOfYear (d : Date) : Nat :=
  daysInParts (daysInMonth d.year) (d.month - 1) 1 + (d.day - 1)

/-- The days from the first of January of the year 1 to the day. -/
def dayNumber (d : Date) : Nat :=
  daysInParts daysInYear (d.year - 1) 1 + d.dayOfYear

theorem dayOfYear_lt (d : Date) : d.dayOfYear < daysInYear d.year := by
  obtain ⟨-, -, hm, hm', hd, hd'⟩ := d.valid
  have hmonth : 1 + (d.month - 1) = d.month := by omega
  have hlast : daysInParts (daysInMonth d.year) (d.month - 1 + 1) 1 ≤
      daysInParts (daysInMonth d.year) 12 1 := daysInParts_mono (by omega)
  rw [daysInParts_year, daysInParts_succ, hmonth] at hlast
  unfold dayOfYear
  omega

theorem splitParts_dayOfYear (d : Date) :
    splitParts (daysInMonth d.year) 12 1 d.dayOfYear = (d.month, d.day - 1) := by
  obtain ⟨-, -, hm, hm', hd, hd'⟩ := d.valid
  have hmonth : 1 + (d.month - 1) = d.month := by omega
  have hleft : d.day - 1 < daysInMonth d.year (1 + (d.month - 1)) := by
    rw [hmonth]
    omega
  have hsplit := splitParts_within (by omega : d.month - 1 < 12) hleft
  rwa [hmonth] at hsplit

theorem numbersAfter_dayNumber (d : Date) :
    numbersAfter d.dayNumber = ((d.year : Int), d.month, d.day) := by
  obtain ⟨hyear, -, -, -, hd, -⟩ := d.valid
  obtain ⟨cycles, years, hsplit, hyears⟩ :
      ∃ cycles years, d.year = cycles * 400 + (1 + years) ∧ years < 400 :=
    ⟨(d.year - 1) / 400, (d.year - 1) % 400, by omega, Nat.mod_lt _ (by decide)⟩
  have hmonths : daysInMonth d.year = daysInMonth (1 + years) := by
    rw [hsplit]
    exact funext fun month => daysInMonth_add_cycles cycles _ month
  have hfits : d.dayOfYear < daysInYear (1 + years) := by
    have hlt := d.dayOfYear_lt
    rwa [hsplit, daysInYear_add_cycles] at hlt
  have hcycle : daysInParts daysInYear years 1 + d.dayOfYear < daysInCycle := by
    have hlast : daysInParts daysInYear (years + 1) 1 ≤ daysInParts daysInYear 400 1 :=
      daysInParts_mono hyears
    rw [daysInParts_succ, daysInParts_cycle] at hlast
    omega
  have hnumber : d.dayNumber =
      cycles * daysInCycle + (daysInParts daysInYear years 1 + d.dayOfYear) := by
    have hbefore : d.year - 1 = cycles * 400 + years := by omega
    rw [dayNumber, hbefore, daysInParts_add_cycles, Nat.add_assoc]
  have hdiv : d.dayNumber / daysInCycle = cycles := by
    rw [hnumber, Nat.mul_comm, Nat.mul_add_div (Nat.zero_lt_of_lt hcycle), Nat.div_eq_of_lt hcycle,
      Nat.add_zero]
  have hmod : d.dayNumber % daysInCycle = daysInParts daysInYear years 1 + d.dayOfYear := by
    rw [hnumber, Nat.mul_comm, Nat.mul_add_mod, Nat.mod_eq_of_lt hcycle]
  have hcycles : (d.dayNumber : Int).fdiv daysInCycle = cycles := by
    rw [Int.fdiv_eq_ediv_of_nonneg _ (Int.natCast_nonneg _), ← Int.natCast_ediv, hdiv]
  have hwithin : ((d.dayNumber : Int).fmod daysInCycle).toNat =
      daysInParts daysInYear years 1 + d.dayOfYear := by
    rw [Int.fmod_eq_emod_of_nonneg _ (Int.natCast_nonneg _), ← Int.natCast_emod,
      Int.toNat_natCast, hmod]
  have hyearWithin : yearWithin d.dayNumber = (1 + years, d.dayOfYear) := by
    rw [yearWithin, hwithin]
    exact splitParts_within hyears hfits
  have hmonthWithin : monthWithin d.dayNumber = (d.month, d.day - 1) := by
    rw [monthWithin, hyearWithin, ← hmonths]
    exact d.splitParts_dayOfYear
  have hsum : (cycles : Int) * 400 + ((1 + years : Nat) : Int) = d.year := by omega
  rw [numbersAfter_eq, hcycles, hyearWithin, hmonthWithin]
  simp only [hsum, Nat.sub_add_cancel hd]

variable {d e : Date}

theorem precedes_iff : Precedes ((d.year : Int), d.month, d.day) ((e.year : Int), e.month, e.day) ↔
    d.key < e.key := by
  rw [← Nat.not_le, key_le_key]
  unfold Precedes
  simp only
  omega

theorem eq_of_dayNumber (h : d.dayNumber = e.dayNumber) : d = e := by
  have hnumbers := numbersAfter_dayNumber d
  rw [h, numbersAfter_dayNumber] at hnumbers
  simp only [Prod.mk.injEq, Int.natCast_inj] at hnumbers
  obtain ⟨hy, hm, hd⟩ := hnumbers
  exact (eq_of_fields hy hm hd).symm

theorem key_lt_of_dayNumber (h : d.dayNumber < e.dayNumber) : d.key < e.key := by
  rw [← precedes_iff, ← numbersAfter_dayNumber, ← numbersAfter_dayNumber]
  exact numbersAfter_mono (Int.ofNat_lt.mpr h)

theorem dayNumber_le_iff : d.dayNumber ≤ e.dayNumber ↔ d.key ≤ e.key := by
  constructor
  · intro h
    rcases Nat.lt_or_eq_of_le h with hlt | heq
    · exact Nat.le_of_lt (key_lt_of_dayNumber hlt)
    · exact Nat.le_of_eq (congrArg key (eq_of_dayNumber heq))
  · intro h
    exact Nat.not_lt.mp fun hlt => Nat.not_lt.mpr h (key_lt_of_dayNumber hlt)

theorem of_numbers_iff {numbers : Nat × Nat × Nat} :
    (if h : IsDay numbers.1 numbers.2.1 numbers.2.2 then
      some (⟨numbers.1, numbers.2.1, numbers.2.2, h⟩ : Date) else none) = some d ↔
        numbers = (d.year, d.month, d.day) := by
  constructor
  · intro h
    by_cases hday : IsDay numbers.1 numbers.2.1 numbers.2.2
    · rw [dif_pos hday] at h
      obtain rfl := Option.some.inj h
      rfl
    · rw [dif_neg hday] at h
      exact nomatch h
  · rintro rfl
    exact dif_pos d.valid

theorem next?_eq_some_iff : d.next? = some e ↔
    (if d.day < daysInMonth d.year d.month then (d.year, d.month, d.day + 1)
      else if d.month < 12 then (d.year, d.month + 1, 1)
      else (d.year + 1, 1, 1)) = (e.year, e.month, e.day) := of_numbers_iff

theorem previous?_eq_some_iff : d.previous? = some e ↔
    (if 1 < d.day then (d.year, d.month, d.day - 1)
      else if 1 < d.month then (d.year, d.month - 1, daysInMonth d.year (d.month - 1))
      else (d.year - 1, 12, 31)) = (e.year, e.month, e.day) := of_numbers_iff

theorem dayNumber_next (h : d.next? = some e) : e.dayNumber = d.dayNumber + 1 := by
  obtain ⟨hy, -, hm, hm', hd, hd'⟩ := d.valid
  have hmonths := daysInParts_succ (daysInMonth d.year) (d.month - 1) 1
  have hyears := daysInParts_succ daysInYear (d.year - 1) 1
  rw [Nat.sub_add_cancel hm, Nat.add_sub_of_le hm] at hmonths
  rw [Nat.sub_add_cancel hy, Nat.add_sub_of_le hy] at hyears
  have hnumbers := next?_eq_some_iff.mp h
  unfold dayNumber dayOfYear
  split at hnumbers
  · obtain ⟨hyear, hmonth, hday⟩ : d.year = e.year ∧ d.month = e.month ∧ d.day + 1 = e.day := by
      simpa only [Prod.mk.injEq] using hnumbers
    rw [← hyear, ← hmonth, ← hday]
    omega
  · split at hnumbers
    · obtain ⟨hyear, hmonth, hday⟩ : d.year = e.year ∧ d.month + 1 = e.month ∧ 1 = e.day := by
        simpa only [Prod.mk.injEq] using hnumbers
      rw [← hyear, ← hmonth, ← hday, Nat.add_sub_cancel, hmonths]
      omega
    · obtain ⟨hyear, hmonth, hday⟩ : d.year + 1 = e.year ∧ 1 = e.month ∧ 1 = e.day := by
        simpa only [Prod.mk.injEq] using hnumbers
      have hnone : daysInParts (daysInMonth (d.year + 1)) (1 - 1) 1 = 0 := rfl
      have hfull : daysInParts (daysInMonth d.year) d.month 1 = daysInYear d.year := by
        obtain hdecember : d.month = 12 := by omega
        rw [hdecember, daysInParts_year]
      rw [← hyear, ← hmonth, ← hday, Nat.add_sub_cancel, hyears, hnone]
      omega

theorem year_le_of_dayNumber (h : e.dayNumber ≤ d.dayNumber + 1) : e.year ≤ d.year + 1 := by
  refine Nat.not_lt.mp fun hlater => ?_
  have hlast := e.valid.2.1
  obtain ⟨next, hnext⟩ := exists_next (d := d) (by omega)
  have hyear : next.year ≤ d.year + 1 := by
    have hnumbers := congrArg Prod.fst (next?_eq_some_iff.mp hnext)
    simp only at hnumbers
    rw [← hnumbers]
    split
    · exact Nat.le_succ d.year
    · split
      · exact Nat.le_succ d.year
      · exact Nat.le_refl _
  have hkey : e.key ≤ next.key := by
    rw [← dayNumber_le_iff, dayNumber_next hnext]
    exact h
  rw [key_le_key] at hkey
  omega

theorem next_of_previous (h : d.previous? = some e) : e.next? = some d := by
  obtain ⟨hy, -, hm, hm', hd, hd'⟩ := d.valid
  obtain ⟨hfirst, -⟩ := e.valid
  have hnumbers := previous?_eq_some_iff.mp h
  rw [next?_eq_some_iff]
  split at hnumbers
  · obtain ⟨hyear, hmonth, hday⟩ : d.year = e.year ∧ d.month = e.month ∧ d.day - 1 = e.day := by
      simpa only [Prod.mk.injEq] using hnumbers
    have hwithin : d.day - 1 < daysInMonth d.year d.month := by omega
    rw [← hyear, ← hmonth, ← hday, if_pos hwithin, Nat.sub_add_cancel hd]
  · split at hnumbers
    · obtain ⟨hyear, hmonth, hday⟩ : d.year = e.year ∧ d.month - 1 = e.month ∧
          daysInMonth d.year (d.month - 1) = e.day := by
        simpa only [Prod.mk.injEq] using hnumbers
      have hone : d.day = 1 := by omega
      have hbefore : d.month - 1 < 12 := by omega
      rw [← hyear, ← hmonth, ← hday, if_neg (Nat.lt_irrefl _), if_pos hbefore,
        Nat.sub_add_cancel hm, hone]
    · obtain ⟨hyear, hmonth, hday⟩ : d.year - 1 = e.year ∧ 12 = e.month ∧ 31 = e.day := by
        simpa only [Prod.mk.injEq] using hnumbers
      have hjanuary : d.month = 1 := by omega
      have hone : d.day = 1 := by omega
      have hlast : ¬ 31 < daysInMonth (d.year - 1) 12 := Nat.lt_irrefl 31
      rw [← hyear, ← hmonth, ← hday, if_neg hlast, if_neg (Nat.lt_irrefl 12),
        Nat.sub_add_cancel hy, hjanuary, hone]

theorem dayNumber_previous (h : d.previous? = some e) : d.dayNumber = e.dayNumber + 1 :=
  dayNumber_next (next_of_previous h)

end IdentityProof.Date

import IdentityProof.Proofs.Calendar.Anniversary

/-! Timestamps and the moments they name. A later timestamp names a later moment, and the years of
the calendar end once: what is beyond them is later than everything that is not. -/

namespace IdentityProof

namespace Date

def splitParts (length : Nat → Nat) : Nat → Nat → Nat → Nat × Nat
  | 0, part, days => (part, days)
  | fuel + 1, part, days =>
    if days < length part then (part, days)
    else splitParts length fuel (part + 1) (days - length part)

theorem splitYears_eq (fuel year days : Nat) :
    splitYears fuel year days = splitParts daysInYear fuel year days := by
  induction fuel generalizing year days with
  | zero => rfl
  | succ fuel ih => rw [splitYears, splitParts, ih]

theorem splitMonths_eq (year fuel month days : Nat) :
    splitMonths year fuel month days = splitParts (daysInMonth year) fuel month days := by
  induction fuel generalizing month days with
  | zero => rfl
  | succ fuel ih => rw [splitMonths, splitParts, ih]

def daysInParts (length : Nat → Nat) : Nat → Nat → Nat
  | 0, _ => 0
  | count + 1, part => length part + daysInParts length count (part + 1)

variable {length : Nat → Nat} {fuel part days : Nat}

theorem le_splitParts : part ≤ (splitParts length fuel part days).1 := by
  induction fuel generalizing part days with
  | zero => exact Nat.le_refl part
  | succ fuel ih =>
    rw [splitParts]
    split
    · exact Nat.le_refl part
    · exact Nat.le_of_succ_le ih

theorem splitParts_lt (h : days < daysInParts length fuel part) :
    (splitParts length fuel part days).1 < part + fuel ∧
      (splitParts length fuel part days).2 < length (splitParts length fuel part days).1 := by
  induction fuel generalizing part days with
  | zero => exact absurd h (Nat.not_lt_zero days)
  | succ fuel ih =>
    rw [daysInParts] at h
    rw [splitParts]
    split
    · rename_i hfirst
      exact ⟨Nat.lt_add_of_pos_right (Nat.succ_pos fuel), hfirst⟩
    · rename_i hlater
      have hrest : days - length part < daysInParts length fuel (part + 1) := by omega
      obtain ⟨hpart, hleft⟩ := ih hrest
      exact ⟨by omega, hleft⟩

theorem splitParts_mono {later : Nat} (h : days < later) :
    (splitParts length fuel part days).1 < (splitParts length fuel part later).1 ∨
      ((splitParts length fuel part days).1 = (splitParts length fuel part later).1 ∧
        (splitParts length fuel part days).2 < (splitParts length fuel part later).2) := by
  induction fuel generalizing part days later with
  | zero => exact .inr ⟨rfl, h⟩
  | succ fuel ih =>
    rw [splitParts, splitParts]
    by_cases hlater : later < length part
    · have hdays : days < length part := Nat.lt_trans h hlater
      rw [if_pos hlater, if_pos hdays]
      exact .inr ⟨rfl, h⟩
    · rw [if_neg hlater]
      by_cases hdays : days < length part
      · rw [if_pos hdays]
        exact .inl le_splitParts
      · rw [if_neg hdays]
        apply ih
        omega

theorem daysInParts_cycle : daysInParts daysInYear 400 1 = daysInCycle := by decide +kernel

theorem daysInParts_year (year : Nat) : daysInParts (daysInMonth year) 12 1 = daysInYear year := by
  have hmonths : daysInParts (daysInMonth year) 12 1 = daysInMonth year 2 + 337 := by
    simp only [daysInParts, daysInMonth]
    omega
  rw [hmonths, daysInYear, daysInMonth]
  split <;> rfl

def yearWithin (days : Int) : Nat × Nat :=
  splitParts daysInYear 400 1 (days.fmod daysInCycle).toNat

def monthWithin (days : Int) : Nat × Nat :=
  splitParts (daysInMonth (yearWithin days).1) 12 1 (yearWithin days).2

theorem numbersAfter_eq (days : Int) : numbersAfter days =
    (days.fdiv daysInCycle * 400 + (yearWithin days).1, (monthWithin days).1,
      (monthWithin days).2 + 1) := by
  unfold numbersAfter monthWithin yearWithin
  simp only [splitYears_eq, splitMonths_eq]

theorem yearWithin_lt (days : Int) : 1 ≤ (yearWithin days).1 ∧ (yearWithin days).1 ≤ 400 ∧
    (yearWithin days).2 < daysInYear (yearWithin days).1 := by
  have hcycle : (days.fmod daysInCycle).toNat < daysInParts daysInYear 400 1 := by
    rw [daysInParts_cycle, daysInCycle, Int.fmod_eq_emod_of_nonneg days (by decide)]
    omega
  obtain ⟨hlast, hleft⟩ := splitParts_lt hcycle
  exact ⟨le_splitParts, Nat.le_of_lt_succ hlast, hleft⟩

theorem monthWithin_lt (days : Int) : 1 ≤ (monthWithin days).1 ∧ (monthWithin days).1 ≤ 12 ∧
    (monthWithin days).2 < daysInMonth (yearWithin days).1 (monthWithin days).1 := by
  have hyear := (yearWithin_lt days).2.2
  rw [← daysInParts_year] at hyear
  obtain ⟨hlast, hleft⟩ := splitParts_lt hyear
  exact ⟨le_splitParts, Nat.le_of_lt_succ hlast, hleft⟩

theorem daysInMonth_add_cycles (cycles year month : Nat) :
    daysInMonth (cycles * 400 + year) month = daysInMonth year month := by
  have hleap : isLeapYear (cycles * 400 + year) = isLeapYear year := by
    have hfour : (cycles * 400 + year) % 4 = year % 4 := by omega
    have hcentury : (cycles * 400 + year) % 100 = year % 100 := by omega
    have hcycle : (cycles * 400 + year) % 400 = year % 400 := by omega
    unfold isLeapYear
    rw [hfour, hcentury, hcycle]
  unfold daysInMonth
  rw [hleap]

theorem isDay_numbersAfter {days : Int} (h : 0 ≤ days) (hlast : (numbersAfter days).1 ≤ 9999) :
    1 ≤ (numbersAfter days).1 ∧
      IsDay (numbersAfter days).1.toNat (numbersAfter days).2.1 (numbersAfter days).2.2 := by
  obtain ⟨cycles, hcycles⟩ : ∃ cycles : Nat, days.fdiv daysInCycle = cycles := by
    apply Int.eq_ofNat_of_zero_le
    rw [daysInCycle, Int.fdiv_eq_ediv_of_nonneg days (by decide)]
    omega
  obtain ⟨hfrom, -, -⟩ := yearWithin_lt days
  obtain ⟨hmonth, hmonth', hday⟩ := monthWithin_lt days
  rw [numbersAfter_eq, hcycles] at hlast ⊢
  simp only at hlast ⊢
  have hyear : ((cycles : Int) * 400 + (yearWithin days).1).toNat =
      cycles * 400 + (yearWithin days).1 := by omega
  rw [hyear]
  refine ⟨by omega, by omega, by omega, hmonth, hmonth', Nat.succ_pos _, ?_⟩
  rw [daysInMonth_add_cycles]
  exact hday

def Precedes (a b : Int × Nat × Nat) : Prop :=
  a.1 < b.1 ∨ (a.1 = b.1 ∧ (a.2.1 < b.2.1 ∨ (a.2.1 = b.2.1 ∧ a.2.2 < b.2.2)))

theorem numbersAfter_mono {days later : Int} (h : days < later) :
    Precedes (numbersAfter days) (numbersAfter later) := by
  obtain ⟨-, hlast, -⟩ := yearWithin_lt days
  obtain ⟨hfirst, -, -⟩ := yearWithin_lt later
  have horder : days.fdiv daysInCycle < later.fdiv daysInCycle ∨
      (days.fdiv daysInCycle = later.fdiv daysInCycle ∧
        (days.fmod daysInCycle).toNat < (later.fmod daysInCycle).toNat) := by
    simp only [daysInCycle, Int.fdiv_eq_ediv_of_nonneg _ (by decide : (0 : Int) ≤ (146097 : Nat)),
      Int.fmod_eq_emod_of_nonneg _ (by decide : (0 : Int) ≤ (146097 : Nat))]
    omega
  rw [numbersAfter_eq, numbersAfter_eq]
  unfold Precedes
  simp only
  rcases horder with hcycle | ⟨hcycle, hwithin⟩
  · exact .inl (by omega)
  · rw [hcycle]
    have hyears : (yearWithin days).1 < (yearWithin later).1 ∨
        ((yearWithin days).1 = (yearWithin later).1 ∧
          (yearWithin days).2 < (yearWithin later).2) := splitParts_mono hwithin
    rcases hyears with hyear | ⟨hyear, hleft⟩
    · exact .inl (by omega)
    · have hmonths : (monthWithin days).1 < (monthWithin later).1 ∨
          ((monthWithin days).1 = (monthWithin later).1 ∧
            (monthWithin days).2 < (monthWithin later).2) := by
        unfold monthWithin
        rw [hyear]
        exact splitParts_mono hleft
      exact .inr ⟨by omega, by omega⟩

theorem ofNumbers_eq_ok {year month day : Int} {date : Date}
    (h : ofNumbers year month day = .ok date) :
    date.year = year.toNat ∧ date.month = month.toNat ∧ date.day = day.toNat := by
  unfold ofNumbers at h
  by_cases hday : IsDay year.toNat month.toNat day.toNat
  · rw [dif_pos hday] at h
    obtain rfl := Except.ok.inj h
    exact ⟨rfl, rfl, rfl⟩
  · rw [dif_neg hday] at h
    split at h
    · exact nomatch h
    · split at h <;> exact nomatch h

end Date

namespace Moment

/-- The day since the first of January of the year 1 that a timestamp falls on. -/
def dayOf (seconds : Int) : Int := seconds.fdiv 86400 + epochDays

def secondOfDay (seconds : Int) : Nat := (seconds.fmod 86400).toNat

theorem secondOfDay_lt (seconds : Int) :
    secondOfDay seconds * microsPerSecond < microsPerDay := by
  unfold secondOfDay microsPerDay microsPerSecond
  rw [Int.fmod_eq_emod_of_nonneg seconds (by decide)]
  omega

theorem dayOf_mono {seconds later : Int} (h : seconds < later) :
    dayOf seconds < dayOf later ∨
      (dayOf seconds = dayOf later ∧ secondOfDay seconds < secondOfDay later) := by
  unfold dayOf secondOfDay
  simp only [Int.fdiv_eq_ediv_of_nonneg _ (by decide : (0 : Int) ≤ 86400),
    Int.fmod_eq_emod_of_nonneg _ (by decide : (0 : Int) ≤ 86400)]
  omega

theorem dayOf_nonneg {seconds : Int} (h : 0 ≤ seconds) : 0 ≤ dayOf seconds := by
  unfold dayOf epochDays
  rw [Int.fdiv_eq_ediv_of_nonneg seconds (by decide)]
  omega

theorem ofUnixSeconds_eq (seconds : Int) : ofUnixSeconds seconds =
    if !Integer.fitsWord 0x8000000000000000 seconds then .error .timestampOutOfRange
    else if !Integer.fitsWord 0x80000000 ((Date.numbersAfter (dayOf seconds)).1 - 1900) then
      .error .timestampYearTooLarge
    else (Date.ofNumbers ((Date.numbersAfter (dayOf seconds)).1.bmod 0x100000000)
      (Date.numbersAfter (dayOf seconds)).2.1 (Date.numbersAfter (dayOf seconds)).2.2).map
        fun date => ⟨date, secondOfDay seconds * microsPerSecond, secondOfDay_lt seconds⟩ := by
  have hmicros := secondOfDay_lt seconds
  unfold secondOfDay at hmicros
  unfold ofUnixSeconds ofUnix dayOf secondOfDay
  generalize Date.numbersAfter (seconds.fdiv 86400 + epochDays) = numbers
  obtain ⟨year, month, day⟩ := numbers
  simp only [Nat.add_zero, dif_pos hmicros]
  congr 2

theorem ofUnixSeconds_eq_ok {seconds : Int} {m : Moment} (h : ofUnixSeconds seconds = .ok m) :
    Integer.fitsWord 0x8000000000000000 seconds = true ∧
      Date.numbersAfter (dayOf seconds) = ((m.date.year : Int), m.date.month, m.date.day) ∧
        m.micros = secondOfDay seconds * microsPerSecond := by
  rw [ofUnixSeconds_eq] at h
  generalize hnumbers : Date.numbersAfter (dayOf seconds) = numbers at h
  obtain ⟨year, month, day⟩ := numbers
  cases hfits : Integer.fitsWord 0x8000000000000000 seconds with
  | false =>
    rw [hfits] at h
    exact nomatch h
  | true =>
    cases hword : Integer.fitsWord 0x80000000 (year - 1900) with
    | false =>
      rw [hfits, hword] at h
      exact nomatch h
    | true =>
      rw [hfits, hword] at h
      cases hdate : Date.ofNumbers (year.bmod 0x100000000) month day with
      | error e =>
        rw [hdate] at h
        exact nomatch h
      | ok date =>
        rw [hdate] at h
        obtain rfl := Except.ok.inj h
        obtain ⟨hyear, hmonth, hday⟩ := Date.ofNumbers_eq_ok hdate
        have hfirst := date.valid.1
        -- a year beyond the word would wrap to a negative one
        have hyear' : year = date.year := by
          simp only [Integer.fitsWord, Bool.and_eq_true, decide_eq_true_eq] at hword
          rw [Int.bmod_def] at hyear
          omega
        refine ⟨rfl, ?_, rfl⟩
        rw [hyear', hmonth, hday]
        rfl

theorem ofUnixSeconds_of_year {seconds : Int} (h : 0 ≤ seconds)
    (hfits : Integer.fitsWord 0x8000000000000000 seconds = true)
    (hyear : (Date.numbersAfter (dayOf seconds)).1 ≤ 9999) :
    ∃ m, ofUnixSeconds seconds = .ok m := by
  obtain ⟨hfirst, hvalid⟩ := Date.isDay_numbersAfter (dayOf_nonneg h) hyear
  rw [ofUnixSeconds_eq, hfits]
  generalize Date.numbersAfter (dayOf seconds) = numbers at hyear hfirst hvalid ⊢
  obtain ⟨year, month, day⟩ := numbers
  simp only at hyear hfirst hvalid ⊢
  have hword : Integer.fitsWord 0x80000000 (year - 1900) = true := by
    simp only [Integer.fitsWord, Bool.and_eq_true, decide_eq_true_eq]
    omega
  have hsame : year.bmod 0x100000000 = year := by
    rw [Int.bmod_def]
    omega
  have hdate := @Date.ofNumbers_of_isDay year month day hvalid
  rw [hword, hsame, hdate]
  exact ⟨_, rfl⟩

variable {seconds later : Int} {m n : Moment}

theorem lt_of_seconds (hm : ofUnixSeconds seconds = .ok m) (hn : ofUnixSeconds later = .ok n)
    (h : seconds < later) : m < n := by
  obtain ⟨-, hday, hmicros⟩ := ofUnixSeconds_eq_ok hm
  obtain ⟨-, hday', hmicros'⟩ := ofUnixSeconds_eq_ok hn
  have hlast := m.micros_lt
  have hlast' := n.micros_lt
  change m.date.key * microsPerDay + m.micros < n.date.key * microsPerDay + n.micros
  rcases dayOf_mono h with hearlier | ⟨hsame, hwithin⟩
  · have hprecedes := Date.numbersAfter_mono hearlier
    rw [hday, hday'] at hprecedes
    have hkey : m.date.key < n.date.key := by
      rw [← Nat.not_le, Date.key_le_key]
      unfold Date.Precedes at hprecedes
      simp only at hprecedes
      omega
    unfold microsPerDay microsPerSecond at *
    omega
  · have hdate : m.date = n.date := by
      rw [hsame, hday'] at hday
      obtain ⟨hyear, hrest⟩ := Prod.mk.inj hday
      obtain ⟨hmonth, hnumber⟩ := Prod.mk.inj hrest
      exact (Date.eq_of_fields (Int.natCast_inj.mp hyear) hmonth hnumber).symm
    rw [hdate, hmicros, hmicros']
    unfold microsPerSecond
    omega

theorem exists_of_le (hn : ofUnixSeconds later = .ok n) (h : 0 ≤ seconds) (hle : seconds ≤ later) :
    ∃ m, ofUnixSeconds seconds = .ok m := by
  obtain ⟨hfits, hday, -⟩ := ofUnixSeconds_eq_ok hn
  apply ofUnixSeconds_of_year h
  · simp only [Integer.fitsWord, Bool.and_eq_true, decide_eq_true_eq] at hfits ⊢
    omega
  · have hlast := n.date.valid.2.1
    have hyear : (Date.numbersAfter (dayOf later)).1 = n.date.year := by rw [hday]
    rcases Int.lt_or_eq_of_le hle with hlt | rfl
    · rcases dayOf_mono hlt with hearlier | ⟨hsame, -⟩
      · have hprecedes := Date.numbersAfter_mono hearlier
        unfold Date.Precedes at hprecedes
        omega
      · rw [hsame]
        omega
    · omega

theorem late_iff {limit : Moment} {latest : Int} (hlimit : ofUnixSeconds latest = .ok limit)
    (t : Nat) : (∀ moment, ofUnixSeconds t = .ok moment → limit < moment) ↔ latest < t := by
  constructor
  · intro hlate
    refine Int.not_le.mp fun hle => ?_
    obtain ⟨moment, hmoment⟩ := exists_of_le hlimit (Int.natCast_nonneg t) hle
    have hafter := hlate moment hmoment
    rcases Int.lt_or_eq_of_le hle with hlt | rfl
    · exact Nat.lt_asymm hafter (lt_of_seconds hmoment hlimit hlt)
    · obtain rfl := Except.ok.inj (hmoment.symm.trans hlimit)
      exact Nat.lt_irrefl _ hafter
  · intro hlt moment hmoment
    exact lt_of_seconds hlimit hmoment hlt

end Moment
end IdentityProof

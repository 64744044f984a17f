import IdentityProof.Fault

/-!
Days of the Gregorian calendar in the years 1 to 9999, in their order, and the day a number of
days away from another.
-/

namespace IdentityProof

def isLeapYear (year : Nat) : Bool :=
  year % 4 == 0 && (year % 100 != 0 || year % 400 == 0)

def daysInMonth (year month : Nat) : Nat :=
  match month with
  | 2 => if isLeapYear year then 29 else 28
  | 4 | 6 | 9 | 11 => 30
  | _ => 31

def daysInYear (year : Nat) : Nat :=
  if isLeapYear year then 366 else 365

def IsDay (year month day : Nat) : Prop :=
  1 ≤ year ∧ year ≤ 9999 ∧ 1 ≤ month ∧ month ≤ 12 ∧ 1 ≤ day ∧ day ≤ daysInMonth year month

instance (year month day : Nat) : Decidable (IsDay year month day) :=
  inferInstanceAs (Decidable (_ ∧ _))

structure Date where
  year : Nat
  month : Nat
  day : Nat
  valid : IsDay year month day
  deriving DecidableEq, Repr

namespace Date

/-- An integer as a signed word of 32 bits, in which years and the numbers of a clock are kept. -/
def word (n : Int) : Except Fault Int :=
  if !Integer.fitsWord 0x8000000000000000 n then .error (.notWord .tooLarge)
  else if 0x80000000 ≤ n then .error (.notWord .aboveWord)
  else if n < -0x80000000 then .error (.notWord .belowWord)
  else .ok n

def ofNumbers (year month day : Int) : Except Fault Date :=
  if h : IsDay year.toNat month.toNat day.toNat then
    .ok ⟨year.toNat, month.toNat, day.toNat, h⟩
  else if year < 1 || 9999 < year then .error (.yearOutOfRange year)
  else if month < 1 || 12 < month then .error .monthOutOfRange
  else .error .dayOutOfRange

/-- A number that grows from each day to the next. -/
def key (d : Date) : Nat :=
  (d.year * 100 + d.month) * 100 + d.day

def padded (width n : Nat) : List Char :=
  let digits := Nat.toDigits 10 n
  List.replicate (width - digits.length) '0' ++ digits

def text (d : Date) : String :=
  String.ofList (padded 4 d.year ++ '-' :: padded 2 d.month ++ '-' :: padded 2 d.day)

def next? (d : Date) : Option Date :=
  let tomorrow := if d.day < daysInMonth d.year d.month then (d.year, d.month, d.day + 1)
    else if d.month < 12 then (d.year, d.month + 1, 1)
    else (d.year + 1, 1, 1)
  if h : IsDay tomorrow.1 tomorrow.2.1 tomorrow.2.2 then some ⟨_, _, _, h⟩ else none

def previous? (d : Date) : Option Date :=
  let yesterday := if 1 < d.day then (d.year, d.month, d.day - 1)
    else if 1 < d.month then (d.year, d.month - 1, daysInMonth d.year (d.month - 1))
    else (d.year - 1, 12, 31)
  if h : IsDay yesterday.1 yesterday.2.1 yesterday.2.2 then some ⟨_, _, _, h⟩ else none

def splitYears : Nat → Nat → Nat → Nat × Nat
  | 0, year, days => (year, days)
  | fuel + 1, year, days =>
    if days < daysInYear year then (year, days)
    else splitYears fuel (year + 1) (days - daysInYear year)

def splitMonths (year : Nat) : Nat → Nat → Nat → Nat × Nat
  | 0, month, days => (month, days)
  | fuel + 1, month, days =>
    if days < daysInMonth year month then (month, days)
    else splitMonths year fuel (month + 1) (days - daysInMonth year month)

def daysInCycle : Nat := 146097

def numbersAfter (days : Int) : Int × Nat × Nat :=
  let cycle := days.fdiv daysInCycle
  let (year, left) := splitYears 400 1 (days.fmod daysInCycle).toNat
  let (month, left) := splitMonths year 12 1 left
  (cycle * 400 + year, month, left + 1)

end Date
end IdentityProof

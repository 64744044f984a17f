import IdentityProof.Calendar.Date
import IdentityProof.Json.Text

/-!
Moments in universal time, to the microsecond: their order, the same day some years before, and
the moment that a Unix timestamp names.
-/

namespace IdentityProof

def microsPerSecond : Nat := 1000000

def microsPerDay : Nat := 86400 * microsPerSecond

structure Moment where
  date : Date
  micros : Nat
  micros_lt : micros < microsPerDay
  deriving DecidableEq, Repr

namespace Moment

def key (m : Moment) : Nat :=
  m.date.key * microsPerDay + m.micros

instance : LE Moment := ⟨fun a b => a.key ≤ b.key⟩
instance : LT Moment := ⟨fun a b => a.key < b.key⟩

instance (a b : Moment) : Decidable (a ≤ b) := inferInstanceAs (Decidable (a.key ≤ b.key))
instance (a b : Moment) : Decidable (a < b) := inferInstanceAs (Decidable (a.key < b.key))

def midnight (date : Date) : Moment :=
  { date, micros := 0, micros_lt := by decide }

def startOfDay (m : Moment) : Moment :=
  midnight m.date

def nextDay (m : Moment) : Except Fault Moment :=
  match m.date.next? with
  | some date => .ok { m with date }
  | none => .error .dateOutOfRange

def previousDay (m : Moment) : Except Fault Moment :=
  match m.date.previous? with
  | some date => .ok { m with date }
  | none => .error .dateOutOfRange

def ofNumbers (date : Date) (hour minute second micro : Int) : Except Fault Moment :=
  if hour < 0 || 23 < hour then .error .hourOutOfRange
  else if minute < 0 || 59 < minute then .error .minuteOutOfRange
  else if second < 0 || 59 < second then .error .secondOutOfRange
  else if micro < 0 || 999999 < micro then .error .microsecondOutOfRange
  else
    let micros := ((hour * 60 + minute) * 60 + second).toNat * microsPerSecond + micro.toNat
    if h : micros < microsPerDay then .ok { date, micros, micros_lt := h }
    else .error .hourOutOfRange

def text (m : Moment) : String :=
  let seconds := m.micros / microsPerSecond
  let micro := m.micros % microsPerSecond
  let clock := Date.padded 2 (seconds / 3600) ++ ':' :: Date.padded 2 (seconds / 60 % 60) ++
    ':' :: Date.padded 2 (seconds % 60)
  let fraction := if micro = 0 then [] else '.' :: Date.padded 6 micro
  m.date.text ++ " " ++ String.ofList (clock ++ fraction) ++ "+00:00"

/-- The same day and time in another year. A 29th of February becomes the first of March where
the year has none. -/
def inYear (m : Moment) (year : Int) : Except Fault Moment := do
  let year ← Date.word year
  match Date.ofNumbers year m.date.month m.date.day with
  | .ok date => return { m with date }
  | .error _ =>
    let date ← Date.ofNumbers year 3 1
    return { m with date }

def yearsAgo (now : Moment) (years : Int) : Except Fault Moment :=
  now.inYear (now.date.year - years)

def epochDays : Nat := 719162

/-- The moment some seconds and microseconds after the beginning of 1970. The year is a signed word
of 32 bits, counted from 1900 first and then wrapped. -/
def ofUnix (seconds : Int) (micro : Nat) : Except Fault Moment :=
  let (year, month, day) := Date.numbersAfter (seconds.fdiv 86400 + epochDays)
  if !Integer.fitsWord 0x80000000 (year - 1900) then .error .timestampYearTooLarge
  else do
    let date ← Date.ofNumbers (year.bmod 0x100000000) month day
    let micros := (seconds.fmod 86400).toNat * microsPerSecond + micro
    if h : micros < microsPerDay then return { date, micros, micros_lt := h }
    else throw .timestampOutOfRange

def ofUnixSeconds (seconds : Int) : Except Fault Moment :=
  if !Integer.fitsWord 0x8000000000000000 seconds then .error .timestampOutOfRange
  else ofUnix seconds 0

/-- The whole seconds and the microseconds of a timestamp. The fraction is multiplied as a binary
number and then rounded, a tie to the even neighbour. -/
def ofUnixFloat (x : Binary64) : Except Fault Moment :=
  match x with
  | .nan => .error .timestampNan
  | .infinity _ => .error .timestampOutOfRange
  | .finite .. =>
    let whole := x.truncate?.getD 0
    let micro := (x.fraction.mul (.ofInt microsPerSecond)).round?.getD 0
    let (whole, micro) :=
      if (microsPerSecond : Int) ≤ micro then (whole + 1, micro - microsPerSecond)
      else if micro < 0 then (whole - 1, micro + microsPerSecond)
      else (whole, micro)
    if !Integer.fitsWord 0x8000000000000000 whole then .error .timestampOutOfRange
    else ofUnix whole micro.toNat

def ofTimestamp (value : Json) : Except Fault Moment :=
  match value with
  | .number (.float x) => ofUnixFloat x
  | other => do ofUnixSeconds (← other.toInteger)

end Moment
end IdentityProof

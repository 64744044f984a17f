import IdentityProof.Calendar.Moment
import IdentityProof.Signal.Packing

/-!
Dates in signals: two digits of the year, the month and the day as text, packed into a decimal.
The reader takes a month or a day of one digit too, and a space before a single digit of the day.
-/

namespace IdentityProof.PackedDate

inductive Refusal where
  | noMatch (text : String)
  | leftover (rest : String)
  | noSuchDay
  deriving DecidableEq, Repr

def Refusal.message : Refusal → String
  | .noMatch text => "time data " ++ Text.quoted text ++ " does not match format '%y%m%d'"
  | .leftover rest => "unconverted data remains: " ++ rest
  | .noSuchDay => "day is out of range for month"

def isBetween (low high c : Char) : Bool := low ≤ c && c ≤ high

def twoDigits (tens ones : Char) : Nat :=
  (tens.toNat - 0x30) * 10 + (ones.toNat - 0x30)

def monthReadings : List Char → List (Nat × List Char)
  | [] => []
  | a :: rest =>
    let single := if isBetween '1' '9' a then [(twoDigits '0' a, rest)] else []
    match rest with
    | [] => single
    | b :: more =>
      let double := (a == '1' && isBetween '0' '2' b) || (a == '0' && isBetween '1' '9' b)
      if double then (twoDigits a b, more) :: single else single

def dayReadings : List Char → List (Nat × List Char)
  | [] => []
  | a :: rest =>
    let single := if isBetween '1' '9' a then [(twoDigits '0' a, rest)] else []
    match rest with
    | [] => single
    | b :: more =>
      let double := (a == '3' && isBetween '0' '1' b) ||
        (isBetween '1' '2' a && isBetween '0' '9' b) || (a == '0' && isBetween '1' '9' b)
      let spaced := if a == ' ' && isBetween '1' '9' b then [(twoDigits '0' b, more)] else []
      (if double then [(twoDigits a b, more)] else []) ++ single ++ spaced

def monthAndDay? (cs : List Char) : Option (Nat × Nat × List Char) :=
  (monthReadings cs).findSome? fun (month, rest) =>
    (dayReadings rest).head?.map fun (day, rest) => (month, day, rest)

/-- Two digits name a year from 1969 to 2068. -/
def fullYear (yy : Nat) : Nat :=
  if yy ≤ 68 then 2000 + yy else 1900 + yy

def parse (text : String) : Except Refusal Date :=
  match text.toList with
  | a :: b :: rest =>
    if isBetween '0' '9' a && isBetween '0' '9' b then
      match monthAndDay? rest with
      | none => .error (.noMatch text)
      | some (month, day, left) =>
        if !left.isEmpty then .error (.leftover (String.ofList left))
        else if h : IsDay (fullYear (twoDigits a b)) month day then .ok ⟨_, _, _, h⟩
        else .error .noSuchDay
    else .error (.noMatch text)
  | _ => .error (.noMatch text)

def text (d : Date) : String :=
  String.ofList (Date.padded 2 (d.year % 100) ++ Date.padded 2 d.month ++ Date.padded 2 d.day)

def pack (d : Date) : Except Fault String :=
  Packing.packText (text d)

def unset : String := "52983525027888"

/-- Both signals that stand for no date. -/
def isUnset (signal : String) : Bool :=
  signal == "0" || signal == unset

end IdentityProof.PackedDate

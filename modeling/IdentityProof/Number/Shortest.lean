import IdentityProof.Number.Binary64

/-!
The shortest decimal text of a binary number: the fewest significant digits that read back as the
same number and, among those, the nearest to it. It is positional from `1e-4` up to `1e16`.
-/

namespace IdentityProof.Binary64

def powerOfTen (e : Int) : Nat × Nat :=
  if 0 ≤ e then (Nat.pow 10 e.toNat, 1) else (1, Nat.pow 10 (-e).toNat)

/-- Four times the value of a positive number and of both ends of the interval of the reals that
round to it, in units. -/
structure Neighbourhood where
  value : Nat
  low : Nat
  high : Nat
  closed : Bool

def neighbourhood (mantissa scale : Nat) : Neighbourhood :=
  let unit := Nat.pow 2 scale
  let below := if mantissa = 0x10000000000000 && scale != 0 then unit else 2 * unit
  { value := 4 * mantissa * unit
    low := 4 * mantissa * unit - below
    high := 4 * mantissa * unit + 2 * unit
    closed := mantissa % 2 == 0 }

def Neighbourhood.contains (n : Neighbourhood) (num den : Nat) : Bool :=
  if n.closed then n.low * den ≤ num && num ≤ n.high * den
  else n.low * den < num && num < n.high * den

def leadingExponent (mantissa scale : Nat) : Int :=
  let size : Int := (mantissa * Nat.pow 2 scale).log2 - 1074
  let low := (size * 30103).fdiv 100000
  let (num, den) := powerOfTen (low + 1)
  if num * unitsPerOne ≤ mantissa * Nat.pow 2 scale * den then low + 1 else low

def nearestOnGrid? (n : Neighbourhood) (e : Int) : Option Nat :=
  let (num, den) := powerOfTen e
  let step := num * (4 * unitsPerOne)
  let d := n.value * den / step
  let below := n.contains (d * step) den
  let above := n.contains ((d + 1) * step) den
  let toBelow := n.value * den - d * step
  let toAbove := (d + 1) * step - n.value * den
  if below && above then
    some (if toBelow < toAbove || (toBelow == toAbove && d % 2 == 0) then d else d + 1)
  else if below then some d
  else if above then some (d + 1)
  else none

def shortestFrom (n : Neighbourhood) (leading : Int) : Nat → Nat → Nat × Int
  | 0, count => (n.value / (4 * unitsPerOne), leading - count)
  | fuel + 1, count =>
    let e := leading - count + 1
    match nearestOnGrid? n e with
    | some c => (c, e)
    | none => shortestFrom n leading fuel (count + 1)

def shortestDigits (mantissa scale : Nat) : List Char × Int :=
  let (c, e) := shortestFrom (neighbourhood mantissa scale) (leadingExponent mantissa scale) 17 1
  let digits := Nat.toDigits 10 c
  let trimmed := (digits.reverse.dropWhile (· == '0')).reverse
  (trimmed, digits.length + e)

/-- Digits with a point before position `point`: positional when the first digit stands between
the fourth place after the point and the sixteenth before it, with an exponent otherwise. -/
def layOut (digits : List Char) (point : Int) : List Char :=
  let n := digits.length
  if -4 < point && point ≤ 16 then
    if point ≤ 0 then '0' :: '.' :: List.replicate (-point).toNat '0' ++ digits
    else if (n : Int) ≤ point then digits ++ List.replicate (point.toNat - n) '0' ++ ['.', '0']
    else digits.take point.toNat ++ '.' :: digits.drop point.toNat
  else
    let e := point - 1
    let shown := Nat.toDigits 10 e.natAbs
    let padded := if shown.length < 2 then '0' :: shown else shown
    let fraction := if n ≤ 1 then [] else '.' :: digits.drop 1
    digits.take 1 ++ fraction ++ 'e' :: (if e < 0 then '-' else '+') :: padded

def text : Binary64 → String
  | .nan => "nan"
  | .infinity negative => if negative then "-inf" else "inf"
  | .finite negative m s =>
    let body := if m = 0 then ['0', '.', '0'] else
      let (digits, point) := shortestDigits m s
      layOut digits point
    String.ofList (if negative then '-' :: body else body)

end IdentityProof.Binary64

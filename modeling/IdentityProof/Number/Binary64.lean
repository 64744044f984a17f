/-!
Binary floating-point numbers with 53 significant bits. A finite number is kept as an exact
multiple of `2 ^ -1074`, the smallest positive one, so comparison and rounding are integer
arithmetic.
-/

namespace IdentityProof

/-- A finite number is `mantissa * 2 ^ scale` units of `2 ^ -1074`. -/
inductive Binary64 where
  | nan
  | infinity (negative : Bool)
  | finite (negative : Bool) (mantissa scale : Nat)
  deriving DecidableEq, Repr, Inhabited

namespace Binary64

def unitsPerOne : Nat := Nat.pow 2 1074

def zero : Binary64 := .finite false 0 0

def roundHalfEven (num den : Nat) : Nat :=
  let q := num / den
  let r := num % den
  if 2 * r < den then q else if den < 2 * r then q + 1 else q + q % 2

def ofUnits (negative : Bool) (num den : Nat) : Binary64 :=
  let scale := (num / den).log2 + 1 - 53
  let m := roundHalfEven num (den * Nat.pow 2 scale)
  let carried := m = 0x20000000000000
  let mantissa := if carried then 0x10000000000000 else m
  let scale := if carried then scale + 1 else scale
  if 2045 < scale then .infinity negative else .finite negative mantissa scale

def units? : Binary64 → Option Int
  | .finite negative m s =>
    let size : Int := (m * Nat.pow 2 s : Nat)
    some (if negative then -size else size)
  | _ => none

def ofSignedUnits (n : Int) : Binary64 :=
  ofUnits (n < 0) n.natAbs 1

def ofInt (n : Int) : Binary64 :=
  ofUnits (n < 0) (n.natAbs * unitsPerOne) 1

def isNegative : Binary64 → Bool
  | .nan => false
  | .infinity negative => negative
  | .finite negative _ _ => negative

def isFinite : Binary64 → Bool
  | .finite .. => true
  | _ => false

def neg : Binary64 → Binary64
  | .nan => .nan
  | .infinity negative => .infinity (!negative)
  | .finite negative m s => .finite (!negative) m s

def compare? : Binary64 → Binary64 → Option Ordering
  | .nan, _ => none
  | _, .nan => none
  | .infinity a, .infinity b => some (if a == b then .eq else if a then .lt else .gt)
  | .infinity a, .finite .. => some (if a then .lt else .gt)
  | .finite .., .infinity b => some (if b then .gt else .lt)
  | x@(.finite ..), y@(.finite ..) => some (compare (x.units?.getD 0) (y.units?.getD 0))

def add : Binary64 → Binary64 → Binary64
  | .nan, _ => .nan
  | _, .nan => .nan
  | .infinity a, .infinity b => if a == b then .infinity a else .nan
  | .infinity a, .finite .. => .infinity a
  | .finite .., .infinity b => .infinity b
  | x@(.finite ..), y@(.finite ..) =>
    let sum := x.units?.getD 0 + y.units?.getD 0
    if sum = 0 then .finite (x.isNegative && y.isNegative) 0 0 else ofSignedUnits sum

def sub (x y : Binary64) : Binary64 :=
  x.add y.neg

def mul : Binary64 → Binary64 → Binary64
  | .nan, _ => .nan
  | _, .nan => .nan
  | .infinity a, .infinity b => .infinity (a != b)
  | .infinity a, .finite b m _ => if m = 0 then .nan else .infinity (a != b)
  | .finite a m _, .infinity b => if m = 0 then .nan else .infinity (a != b)
  | .finite a m s, .finite b n t => ofUnits (a != b) (m * n * Nat.pow 2 (s + t)) unitsPerOne

def truncate? (x : Binary64) : Option Int :=
  x.units?.map fun u => u.tdiv unitsPerOne

def fraction (x : Binary64) : Binary64 :=
  match x.units? with
  | some u => ofSignedUnits (u.tmod unitsPerOne)
  | none => .finite x.isNegative 0 0

def round? : Binary64 → Option Int
  | .finite negative m s =>
    let n := roundHalfEven (m * Nat.pow 2 s) unitsPerOne
    some (if negative then -(n : Int) else n)
  | _ => none

end Binary64
end IdentityProof

import IdentityProof.Bn254.Curve

/-!
The optimal ate pairing of BN254. Every factor of a Miller value that lies in the field of degree
six is killed by the final power, so lines are taken without their denominators and only a line at
an infinite point, whose denominator is zero, makes the whole value zero.
-/

namespace IdentityProof.Bn254

structure Fp6 where
  c0 : Fp2
  c1 : Fp2
  c2 : Fp2
  deriving DecidableEq, Repr

namespace Fp6

open CoordinateField (zero one)

def ofFp2 (a : Fp2) : Fp6 := ⟨a, zero, zero⟩

instance : Add Fp6 := ⟨fun a b => ⟨a.c0 + b.c0, a.c1 + b.c1, a.c2 + b.c2⟩⟩
instance : Sub Fp6 := ⟨fun a b => ⟨a.c0 - b.c0, a.c1 - b.c1, a.c2 - b.c2⟩⟩

def timesXi (a : Fp2) : Fp2 :=
  let nine := Fp.ofNat 9
  ⟨nine * a.re - a.im, a.re + nine * a.im⟩

instance : Mul Fp6 := ⟨fun a b =>
  let t0 := a.c0 * b.c0
  let t1 := a.c1 * b.c1
  let t2 := a.c2 * b.c2
  { c0 := t0 + timesXi ((a.c1 + a.c2) * (b.c1 + b.c2) - t1 - t2)
    c1 := (a.c0 + a.c1) * (b.c0 + b.c1) - t0 - t1 + timesXi t2
    c2 := (a.c0 + a.c2) * (b.c0 + b.c2) - t0 - t2 + t1 }⟩

def timesV (a : Fp6) : Fp6 := ⟨timesXi a.c2, a.c0, a.c1⟩

end Fp6

structure Fp12 where
  c0 : Fp6
  c1 : Fp6
  deriving DecidableEq, Repr

namespace Fp12

open CoordinateField (zero)

instance : Mul Fp12 := ⟨fun a b =>
  let t0 := a.c0 * b.c0
  let t1 := a.c1 * b.c1
  { c0 := t0 + t1.timesV
    c1 := (a.c0 + a.c1) * (b.c0 + b.c1) - t0 - t1 }⟩

def one : Fp12 := ⟨.ofFp2 CoordinateField.one, .ofFp2 zero⟩

end Fp12

/-- The line through two points of the twist or the tangent of one, at a point of the curve. None
if the first point is infinite. -/
def line? (p q : G2) (x y : Fp) : Option Fp12 :=
  open CoordinateField (zero isZero) in
  if p.isInfinite then none
  else
    let rise := q.y * p.z - p.y * q.z
    let run := q.x * p.z - p.x * q.z
    if isZero run && !isZero rise then
      some ⟨⟨p.z.scale x, -p.x, zero⟩, .ofFp2 zero⟩
    else
      let tangent := isZero run
      let rise := if tangent then Point.thrice (p.x * p.x) else rise
      let run := if tangent then Point.twice (p.y * p.z) else run
      some
        { c0 := .ofFp2 (-(run * p.z).scale y)
          c1 := ⟨(rise * p.z).scale x, run * p.y - rise * p.x, zero⟩ }

def loopDigits : List Int := [
  1, 0, 1, 0, 0, -1, 0, 1, 1, 0, 0, 0, -1, 0, 0, 1,
  1, 0, 0, -1, 0, 0, 0, 0, 0, 1, 0, 0, -1, 0, 0, 1,
  1, 1, 0, 0, 0, 0, -1, 0, 1, 0, 0, -1, 0, 1, 1, 0,
  0, 1, 0, 0, -1, 1, 0, 0, -1, 0, 1, 0, 1, 0, 0, 0]

structure MillerState where
  value : Fp12
  point : G2

def MillerState.addLine? (s : MillerState) (q : G2) (x y : Fp) : Option MillerState :=
  (line? s.point q x y).map fun l => { value := s.value * l, point := s.point.add q }

def MillerState.step? (q : G2) (x y : Fp) (s : MillerState) (digit : Int) : Option MillerState := do
  let l ← line? s.point s.point x y
  let doubled : MillerState := { value := s.value * s.value * l, point := s.point.double }
  if digit = 0 then return doubled
  else doubled.addLine? (if digit = 1 then q else q.neg) x y

def frobeniusX : Fp2 := power Fp2.xi ((fieldSize - 1) / 3)
def frobeniusY : Fp2 := power Fp2.xi ((fieldSize - 1) / 2)

def frobenius (q : G2) : G2 :=
  ⟨q.x.conj * frobeniusX, q.y.conj * frobeniusY, q.z.conj⟩

def miller? (x y : Fp) (q : G2) : Option Fp12 := do
  let loop ← loopDigits.foldlM (MillerState.step? q x y) { value := Fp12.one, point := q }
  let q1 := frobenius q
  let q2 := (frobenius q1).neg
  let last ← loop.addLine? q1 x y
  let l ← line? last.point q2 x y
  return last.value * l

def finalExponent : Nat := (Nat.pow fieldSize 12 - 1) / order

def millerOf? (p : G1) (q : G2) : Option Fp12 :=
  if q.isInfinite then some Fp12.one
  else
    match G1.affine? p with
    | none => some Fp12.one
    | some (x, y) => miller? (Fp.ofNat x) (Fp.ofNat y) q

def pairingProductIsOne (pairs : List (G1 × G2)) : Bool :=
  match pairs.foldlM (fun product (p, q) => (millerOf? p q).map (product * ·)) Fp12.one with
  | none => false
  | some product =>
    powerFrom (finalExponent.log2 + 1) product finalExponent Fp12.one = Fp12.one

end IdentityProof.Bn254

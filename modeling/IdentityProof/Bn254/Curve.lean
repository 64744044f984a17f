import IdentityProof.Bn254.Field

/-!
Points of the curve `y ^ 2 = x ^ 3 + 3` and of its twist, in projective coordinates: the group law,
multiples, and the affine coordinates that a point has unless it is infinite.
-/

namespace IdentityProof.Bn254

open CoordinateField (zero one isZero)

/-- The point `(x / z, y / z)`, infinite when `z` is zero. -/
structure Point (F : Type) where
  x : F
  y : F
  z : F
  deriving DecidableEq, Repr

namespace Point

variable {F : Type} [CoordinateField F]

def infinity : Point F := ⟨one, one, zero⟩

def ofAffine (x y : F) : Point F := ⟨x, y, one⟩

def isInfinite (p : Point F) : Bool := isZero p.z

def neg (p : Point F) : Point F := ⟨p.x, -p.y, p.z⟩

def twice (a : F) : F := a + a

def thrice (a : F) : F := a + a + a

def double (p : Point F) : Point F :=
  let w := thrice (p.x * p.x)
  let s := p.y * p.z
  let b := p.x * p.y * s
  let b4 := twice (twice b)
  let h := w * w - twice b4
  let ys := p.y * s
  { x := twice (h * s)
    y := w * (b4 - h) - twice (twice (twice (ys * ys)))
    z := twice (twice (twice (s * (s * s)))) }

def add (p q : Point F) : Point F :=
  if p.isInfinite then q
  else if q.isInfinite then p
  else
    let u2 := p.y * q.z
    let v2 := p.x * q.z
    let u := q.y * p.z - u2
    let v := q.x * p.z - v2
    if isZero v then (if isZero u then p.double else infinity)
    else
      let w := p.z * q.z
      let vv := v * v
      let vvv := v * vv
      let r := vv * v2
      let a := u * u * w - vvv - twice r
      { x := v * a, y := u * (r - a) - vvv * u2, z := vvv * w }

/-- Doubles and adds. The last argument collects the sum; the number of bits of the factor is fuel
enough. -/
def multiplyFrom : Nat → Point F → Nat → Point F → Point F
  | 0, _, _, sum => sum
  | fuel + 1, p, n, sum =>
    if n = 0 then sum
    else multiplyFrom fuel p.double (n / 2) (if n % 2 = 1 then add sum p else sum)

def multiply (p : Point F) (n : Nat) : Point F :=
  multiplyFrom (n.log2 + 1) p n infinity

end Point

abbrev G1 := Point Fp
abbrev G2 := Point Fp2

def twistConstant : Fp2 := Fp2.xi.inverse.scale (Fp.ofNat 3)

namespace G1

def ofCoordinates? (x y : Int) : Option G1 :=
  let x := Fp.ofInt x
  let y := Fp.ofInt y
  if y * y = x * x * x + Fp.ofNat 3 then some (.ofAffine x y) else none

def affine? (p : G1) : Option (Nat × Nat) :=
  if p.isInfinite then none
  else
    let scale := p.z.inverse
    some ((p.x * scale).val, (p.y * scale).val)

end G1

namespace G2

def ofCoordinates? (x0 x1 y0 y1 : Int) : Option G2 :=
  let x : Fp2 := ⟨.ofInt x0, .ofInt x1⟩
  let y : Fp2 := ⟨.ofInt y0, .ofInt y1⟩
  if y * y = x * x * x + twistConstant then some (.ofAffine x y) else none

def affine? (p : G2) : Option (Fp2 × Fp2) :=
  if p.isInfinite then none
  else
    let scale := p.z.inverse
    some (p.x * scale, p.y * scale)

end G2
end IdentityProof.Bn254

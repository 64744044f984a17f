/-!
The prime field of the curve BN254 and the quadratic field above it, which adjoins a square root
of minus one.
-/

namespace IdentityProof.Bn254

def fieldSize : Nat :=
  21888242871839275222246405745257275088696311157297823662689037894645226208583

def order : Nat :=
  21888242871839275222246405745257275088548364400416034343698204186575808495617

theorem fieldSize_pos : 0 < fieldSize := by decide

class CoordinateField (F : Type) extends Add F, Sub F, Mul F, Neg F where
  zero : F
  one : F
  isZero : F → Bool

def powerFrom [Mul F] : Nat → F → Nat → F → F
  | 0, _, _, product => product
  | fuel + 1, base, exponent, product =>
    if exponent = 0 then product
    else powerFrom fuel (base * base) (exponent / 2)
      (if exponent % 2 = 1 then product * base else product)

def power [CoordinateField F] (base : F) (exponent : Nat) : F :=
  powerFrom (exponent.log2 + 1) base exponent CoordinateField.one

structure Fp where
  val : Nat
  lt : val < fieldSize
  deriving DecidableEq, Repr

namespace Fp

def ofNat (n : Nat) : Fp := ⟨n % fieldSize, Nat.mod_lt _ fieldSize_pos⟩

def ofInt (n : Int) : Fp := ofNat (n % (fieldSize : Int)).toNat

instance : CoordinateField Fp where
  add a b := ofNat (a.val + b.val)
  sub a b := ofNat (a.val + (fieldSize - b.val))
  mul a b := ofNat (a.val * b.val)
  neg a := ofNat (fieldSize - a.val)
  zero := ofNat 0
  one := ofNat 1
  isZero a := a.val == 0

def inverse (a : Fp) : Fp := power a (fieldSize - 2)

end Fp

structure Fp2 where
  re : Fp
  im : Fp
  deriving DecidableEq, Repr

namespace Fp2

def ofFp (a : Fp) : Fp2 := ⟨a, Fp.ofNat 0⟩

instance : CoordinateField Fp2 where
  add a b := ⟨a.re + b.re, a.im + b.im⟩
  sub a b := ⟨a.re - b.re, a.im - b.im⟩
  mul a b :=
    let r := a.re * b.re
    let i := a.im * b.im
    ⟨r - i, (a.re + a.im) * (b.re + b.im) - r - i⟩
  neg a := ⟨-a.re, -a.im⟩
  zero := ofFp (Fp.ofNat 0)
  one := ofFp (Fp.ofNat 1)
  isZero a := CoordinateField.isZero a.re && CoordinateField.isZero a.im

def conj (a : Fp2) : Fp2 := ⟨a.re, -a.im⟩

def scale (k : Fp) (a : Fp2) : Fp2 := ⟨k * a.re, k * a.im⟩

def inverse (a : Fp2) : Fp2 :=
  (conj a).scale (a.re * a.re + a.im * a.im).inverse

def xi : Fp2 := ⟨Fp.ofNat 9, Fp.ofNat 1⟩

end Fp2
end IdentityProof.Bn254

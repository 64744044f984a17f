import IdentityProof.Bn254.Pairing

/-!
The groups that a Groth16 proof is about: two groups with a pairing, whose finite points have
integer coordinates.
-/

namespace IdentityProof

/-- Two groups of a common order with a pairing into a third one. -/
class PairingGroups (G1 G2 : Type) where
  order : Nat
  zero1 : G1
  zero2 : G2
  add1 : G1 → G1 → G1
  neg1 : G1 → G1
  multiply1 : G1 → Nat → G1
  point1? : Int → Int → Option G1
  point2? : Int → Int → Int → Int → Option G2
  productIsOne : List (G1 × G2) → Bool

instance : PairingGroups Bn254.G1 Bn254.G2 where
  order := Bn254.order
  zero1 := Bn254.Point.infinity
  zero2 := Bn254.Point.infinity
  add1 := Bn254.Point.add
  neg1 := Bn254.Point.neg
  multiply1 := Bn254.Point.multiply
  point1? := Bn254.G1.ofCoordinates?
  point2? := Bn254.G2.ofCoordinates?
  productIsOne := Bn254.pairingProductIsOne

end IdentityProof

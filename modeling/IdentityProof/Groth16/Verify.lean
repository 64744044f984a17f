import IdentityProof.Groth16.Key
import IdentityProof.Proof

/-!
The Groth16 equation: a proof with points `A`, `B` and `C` is accepted for a key and signals when
`e(A, B) = e(alpha, beta) * e(X, gamma) * e(C, delta)`, where `X` combines the points of the key by
the signals.
-/

namespace IdentityProof.Groth16

variable {G1 G2 : Type} [PairingGroups G1 G2]

def combine? (G2 : Type) [PairingGroups G1 G2] (points : List G1) (signals : List Nat) :
    Option G1 :=
  points.head?.map fun first =>
    ((points.drop 1).zip signals).foldl
      (fun sum (p, s) =>
        if s = 0 then sum else PairingGroups.add1 G2 sum (PairingGroups.multiply1 G2 p s)) first

structure Statement (G1 G2 : Type) where
  a : G1
  b : G2
  c : G1
  signals : List Int

def readStatement (points : ProofPoints) (signals : List String) :
    Except (Raised OffCurve) (Statement G1 G2) := do
  let a ← Coordinate.readPoint1 G2 (.array (points.a.map .text))
  let b ← Coordinate.readPoint2 G1 (.array (points.b.map fun row => .array (row.map .text)))
  let c ← Coordinate.readPoint1 G2 (.array (points.c.map .text))
  let signals ← Fault.lift (signals.mapM readInteger)
  return { a, b, c, signals }

def firstOutOfField? (order : Nat) (signals : List Int) : Option Nat :=
  signals.findIdx? fun s => s < 0 || (order : Int) ≤ s

def isBalanced (key : VerifyingKey G1 G2) (x : G1) (s : Statement G1 G2) : Bool :=
  PairingGroups.productIsOne [
    (s.a, s.b),
    (PairingGroups.neg1 G2 key.alpha, key.beta),
    (PairingGroups.neg1 G2 x, key.gamma),
    (PairingGroups.neg1 G2 s.c, key.delta)]

def decideStatement (key : VerifyingKey G1 G2) (s : Statement G1 G2) : Except Groth16Error Unit :=
  if key.inputs.length ≠ s.signals.length + 1 then
    .error (.wrongSignalCount s.signals.length ((key.inputs.length : Int) - 1))
  else
    match firstOutOfField? (PairingGroups.order G1 G2) s.signals with
    | some index => .error (.signalOutOfField index)
    | none =>
      match combine? G2 key.inputs (s.signals.map Int.toNat) with
      | some x => if isBalanced key x s then .ok () else .error .unbalanced
      | none => .error .unbalanced

def verify (key : VerifyingKey G1 G2) (proof : Proof) : Except Groth16Error Unit := do
  match proof.points with
  | none => throw .emptyProof
  | some points =>
    if points.isEmpty then throw .emptyProof
    else
      let s ← (readStatement points proof.signals).mapError .badProof
      decideStatement key s

def verifyBy (G1 G2 : Type) [PairingGroups G1 G2] (source : Source) (proof : Proof) :
    Except (Raised Groth16Error) Unit := do
  let key : VerifyingKey G1 G2 ← VerifyingKey.load source
  (verify key proof).mapError .refused

end IdentityProof.Groth16

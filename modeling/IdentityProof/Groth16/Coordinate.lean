import IdentityProof.Groth16.Error
import IdentityProof.Groth16.Groups
import IdentityProof.Json.Text
import IdentityProof.Text.Sigma

/-!
Coordinates and signals as integers: decimal, or in base sixteen with its mark. A point all of whose
coordinates are zero is the infinite one.
-/

namespace IdentityProof

def readInteger (text : String) : Except Fault Int :=
  let body := Text.lowercase (Text.strip text.toList)
  let radix := if ['0', 'x'].isPrefixOf body then .sixteen else .ten
  (Integer.read radix body).mapError .integer

namespace Coordinate

def read (value : Json) : Except Fault Int := do
  match value with
  | .number (.int n) => return n
  | .bool b => return if b then 1 else 0
  | other => readInteger (← other.shown)

def readEntry (value : Json) (index : Nat) : Except Fault Int := do
  read (← value.entry index)

variable {G1 G2 : Type} [PairingGroups G1 G2]

def readPoint1 (G2 : Type) [PairingGroups G1 G2] (value : Json) :
    Except (Raised OffCurve) G1 := do
  let x ← Fault.lift (readEntry value 0)
  let y ← Fault.lift (readEntry value 1)
  if x = 0 ∧ y = 0 then return PairingGroups.zero1 G2
  match PairingGroups.point1? G2 x y with
  | some p => return p
  | none => throw (.refused .first)

def readPoint2 (G1 : Type) [PairingGroups G1 G2] (value : Json) :
    Except (Raised OffCurve) G2 := do
  let part (i j : Nat) : Except Fault Int := do readEntry (← value.entry i) j
  let x0 ← Fault.lift (part 0 0)
  let x1 ← Fault.lift (part 0 1)
  let y0 ← Fault.lift (part 1 0)
  let y1 ← Fault.lift (part 1 1)
  if x0 = 0 ∧ x1 = 0 ∧ y0 = 0 ∧ y1 = 0 then return PairingGroups.zero2 G1
  match PairingGroups.point2? G1 x0 x1 y0 y1 with
  | some p => return p
  | none => throw (.refused .second)

end Coordinate
end IdentityProof

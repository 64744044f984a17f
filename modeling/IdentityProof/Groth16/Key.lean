import IdentityProof.Groth16.Coordinate
import IdentityProof.Json.Source

/-!
Verification keys: the points that they hold, and how they are read.
-/

namespace IdentityProof

structure VerifyingKey (G1 G2 : Type) where
  alpha : G1
  beta : G2
  gamma : G2
  delta : G2
  /-- One point for the constant and one for each signal. -/
  inputs : List G1

namespace VerifyingKey

variable {G1 G2 : Type} [PairingGroups G1 G2]

def ofJson (data : Json) : Except (Raised OffCurve) (VerifyingKey G1 G2) := do
  let alpha ← Coordinate.readPoint1 G2 (← Fault.lift (data.key "vk_alpha_1"))
  let beta ← Coordinate.readPoint2 G1 (← Fault.lift (data.key "vk_beta_2"))
  let gamma ← Coordinate.readPoint2 G1 (← Fault.lift (data.key "vk_gamma_2"))
  let delta ← Coordinate.readPoint2 G1 (← Fault.lift (data.key "vk_delta_2"))
  let entries ← Fault.lift (do (← data.key "IC").entries)
  let inputs ← entries.mapM (Coordinate.readPoint1 G2)
  return { alpha, beta, gamma, delta, inputs }

def jsonOf : Source → Except Fault Json
  | .value (.object members) => .ok (.object members)
  | source => source.read

def load (source : Source) : Except (Raised Groth16Error) (VerifyingKey G1 G2) :=
  Except.mapError Groth16Error.ofKey do ofJson (← Fault.lift (jsonOf source))

end VerifyingKey
end IdentityProof

import IdentityProof.Groth16.Verify
import IdentityProof.Policy.Setting
import IdentityProof.Verification.Verify

/-!
Verifiers: a stored policy together with the verification key. Settings of a single call are layered
over the stored policy.
-/

namespace IdentityProof

inductive SetupError where
  | keyRequired
  | unreadableKeyFile (path : String) (why : Fault)
  | badKey (why : Groth16Error)
  deriving DecidableEq, Repr

def SetupError.message : SetupError → String
  | .keyRequired => "verification key is required"
  | .unreadableKeyFile path why =>
    "failed to read verification key from file " ++ Text.quoted path ++ ": " ++ why.message
  | .badKey why => why.message

namespace Source

def isGiven : Source → Bool
  | .nothing => false
  | .text s => s != ""
  | .bytes b => !b.isEmpty
  | .value j => j.isGiven

def byteOf (value : Json) : Except Fault UInt8 := do
  let n ← value.toInteger
  if 0 ≤ n && n < 256 then return UInt8.ofNat n.toNat else throw .byteOutOfRange

def zeroBytes (n : Int) : Except Fault Bytes :=
  if !Integer.fitsWord 0x8000000000000000 n then .error .countTooLarge
  else if n < 0 then .error .negativeCount
  else do
    Bytes.hasRoom n
    return List.replicate n.toNat 0

/-- The bytes of a key. Text has none without an encoding; of other values arrays list them, and a
number counts zeros. -/
def toBytes : Source → Except Fault Bytes
  | .nothing => .ok []
  | .text _ | .value (.text _) => .error .textWithoutEncoding
  | .bytes b => .ok b
  | .value (.number (.int n)) => zeroBytes n
  | .value (.bool b) => zeroBytes (if b then 1 else 0)
  | .value (.array items) => items.mapM byteOf
  | .value (.object members) => members.mapM fun m => byteOf (.text m.1)
  | .value other => .error (.notBytes other.kind)

end Source

structure Verifier where
  policy : Policy
  key : Bytes

namespace Verifier

def readKey (files : Files) (policy : Policy) (key : Source) :
    Except (Raised SetupError) Bytes :=
  if policy.keyFile ≠ "" then
    match files.read policy.keyFile with
    | .ok bytes => .ok bytes
    | .error (.file why path) =>
      .error (.refused (.unreadableKeyFile policy.keyFile (.file why path)))
    | .error f => .error (.fault f)
  else if key.isGiven then Fault.lift key.toBytes
  else .error (.refused .keyRequired)

def make (files : Files) (key : Source) (settings : List Setting) :
    Except (Raised SetupError) Verifier := do
  let policy := Policy.merge true .default settings
  return { policy, key := ← readKey files policy key }

def loadKey {G1 G2 : Type} [PairingGroups G1 G2] (v : Verifier) :
    Except (Raised SetupError) (VerifyingKey G1 G2) :=
  (VerifyingKey.load (.bytes v.key)).mapError (.map .badKey)

def construct (G1 G2 : Type) [PairingGroups G1 G2] (files : Files) (key : Source)
    (settings : List Setting) : Except (Raised SetupError) (Verifier × VerifyingKey G1 G2) := do
  let v ← make files key settings
  return (v, ← v.loadKey)

/-- The reason for which a proof does not hold for a key. -/
def checkProof {G1 G2 : Type} [PairingGroups G1 G2] (key : VerifyingKey G1 G2) (proof : Proof) :
    Except String Unit :=
  (Groth16.verify key proof).mapError Groth16Error.message

/-- Verifies a proof under the stored policy and the settings of the call. -/
def verify {m : Type → Type} [Monad m] (services : Services m) (now : Moment) (v : Verifier)
    (settings : List Setting) (proof : Proof) : m (Except (Raised VerifyError) Unit) :=
  (Policy.merge false v.policy settings).verify services now proof

def title (v : Verifier) : String :=
  "Verifier(proof_type=" ++ Text.quoted v.policy.proofType.name ++ ")"

end Verifier
end IdentityProof

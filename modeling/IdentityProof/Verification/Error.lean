import IdentityProof.Root.Basic
import IdentityProof.Rule.Outcome

/-!
How a verification ends without success. A wrong root is one failed field among others; a root that
could not be checked says nothing about the proof and stands apart.
-/

namespace IdentityProof

inductive FieldError where
  | rule (e : RuleError)
  | root (why : InvalidRoot)
  deriving DecidableEq, Repr

def FieldError.message : FieldError → String
  | .rule e => e.message
  | .root why => why.message

inductive VerifyError where
  | structural (failures : Failures RuleError)
  | signals (failures : Failures FieldError)
  | unchecked (why : UncheckedRoot)
  | proofInvalid (reason : String)
  deriving DecidableEq, Repr

def VerifyError.message : VerifyError → String
  | .structural failures => failures.message RuleError.message
  | .signals failures => failures.message FieldError.message
  | .unchecked why => why.message
  | .proofInvalid reason => "groth16 verification failed: " ++ reason

/-- What a check of a root tells about the proof: whether the root is wrong. Everything else that
kept it from being checked ends the verification. -/
def rootVerdict (result : Except (Raised RootError) Unit) :
    Except (Raised VerifyError) (Option InvalidRoot) :=
  match result with
  | .ok () => .ok none
  | .error (.refused (.invalid why)) => .ok (some why)
  | .error (.refused (.unchecked why)) => .error (.refused (.unchecked why))
  | .error (.fault f) => .error (.fault f)

end IdentityProof

import IdentityProof.Fault

/-!
Why a Groth16 verification is refused.
-/

namespace IdentityProof

inductive OffCurve where
  | first
  | second
  deriving DecidableEq, Repr

def OffCurve.message : OffCurve → String
  | .first => "G1 point is not on curve"
  | .second => "G2 point is not on curve"

inductive Groth16Error where
  | keyOffCurve (which : OffCurve)
  | badKey (f : Fault)
  | emptyProof
  | badProof (why : Raised OffCurve)
  | wrongSignalCount (found : Nat) (expected : Int)
  | signalOutOfField (index : Nat)
  | unbalanced
  deriving DecidableEq, Repr

namespace Groth16Error

def message : Groth16Error → String
  | .keyOffCurve which => which.message
  | .badKey f => "invalid verification key: " ++ f.message
  | .emptyProof => "proof is empty"
  | .badProof why => "invalid proof: " ++ why.message OffCurve.message
  | .wrongSignalCount found expected =>
    "invalid public signals count: got " ++ toString found ++ ", key expects " ++ toString expected
  | .signalOutOfField index => "public signal " ++ toString index ++ " is not in the scalar field"
  | .unbalanced => "pairing check failed"

/-- What reading a key met. Missing parts, bad values and values of a wrong type make the key
invalid, and any other fault is passed on. -/
def ofKey : Raised OffCurve → Raised Groth16Error
  | .refused which => .refused (.keyOffCurve which)
  | .fault f =>
    if f.kind.isValue || f.kind = .noKey || f.kind = .noIndex || f.kind = .wrongType then
      .refused (.badKey f)
    else .fault f

end Groth16Error
end IdentityProof

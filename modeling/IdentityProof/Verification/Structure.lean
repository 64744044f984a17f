import IdentityProof.Policy.Basic
import IdentityProof.Proof

/-!
The structure of a proof: it has points, as many signals as its type has, and a nullifier.
-/

namespace IdentityProof

namespace Proof

def pointsField : String := "zk_proof/proof"

def signalsField : String := "zk_proof/pub_signals"

def signal (proof : Proof) (t : ProofType) (s : Signal) : String :=
  t.signal proof.signals s

def pointsOutcome (proof : Proof) : Outcome RuleError :=
  if proof.hasPoints then .pass else .failed .blank

def lengthOutcome (proof : Proof) (t : ProofType) : Outcome RuleError :=
  if proof.signals.isEmpty then .failed .blank
  else if proof.signals.length ≠ t.signalCount then .failed (.wrongLength t.signalCount)
  else .pass

def nullifierOutcome (proof : Proof) (t : ProofType) : Outcome RuleError :=
  if proof.signal t .nullifier = "" then .failed .blank else .pass

def structuralFailures (proof : Proof) (t : ProofType) : Failures RuleError :=
  Failures.ofOutcomes [
    (pointsField, proof.pointsOutcome),
    (signalsField, proof.lengthOutcome t),
    (Signal.nullifier.path, proof.nullifierOutcome t)]

end Proof
end IdentityProof

import IdentityProof.Verification.Signals
import IdentityProof.Verification.Structure

/-!
Verification in three phases: the structure of the proof, its signals with one check of the root,
and the proof itself. A phase is reached only when the one before it found nothing.
-/

namespace IdentityProof

/-- What a verification asks of others: whether a root is right and whether a proof holds. A check
of a proof fails with the text of its error, and it is assumed that this text can be made. -/
structure Services (m : Type → Type) where
  checkRoot : RootSource → String → m (Except (Raised RootError) Unit)
  checkProof : Proof → m (Except String Unit)

namespace Policy

def judgeSignals (p : Policy) (now : Moment) (proof : Proof)
    (rootResult : Except (Raised RootError) Unit) : Except (Raised VerifyError) Unit := do
  let wrongRoot ← rootVerdict rootResult
  let failures ← Fault.lift (p.signalFailures now wrongRoot (proof.signal p.proofType))
  if failures.isEmpty then return () else throw (.refused (.signals failures))

def verify {m : Type → Type} [Monad m] (services : Services m) (now : Moment) (p : Policy)
    (proof : Proof) : m (Except (Raised VerifyError) Unit) := do
  let structural := proof.structuralFailures p.proofType
  if structural.isEmpty then
    let (source, root) := p.rootQuestion
    let rootResult ← services.checkRoot source (proof.signal p.proofType root)
    match p.judgeSignals now proof rootResult with
    | .error e => return .error e
    | .ok () =>
      match ← services.checkProof proof with
      | .error reason => return .error (.refused (.proofInvalid reason))
      | .ok () => return .ok ()
  else return .error (.refused (.structural structural))

end Policy
end IdentityProof

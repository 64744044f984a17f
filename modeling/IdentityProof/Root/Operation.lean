import IdentityProof.Root.Ledger
import IdentityProof.Root.Session

/-!
The life of a verifier: operations one after the other, each at its time and with the ledger as it
is then. In between, calls that have hung come to their end.
-/

namespace IdentityProof

inductive Operation where
  | verify (root : Json)
  | status (root : Json)
  | currentRoot
  | verifyAndClose (root : Json)
  | close

inductive Occasion (τ : Type) where
  | operation (op : Operation) (ledger : Ledger) (now : τ)
  | freed

def Occasion.closes : Occasion τ → Bool
  | .operation (.verifyAndClose _) _ _ | .operation .close _ _ => true
  | _ => false

namespace RootVerifier

variable {τ : Type} [Sub τ] [LT τ] [DecidableLT τ]

def status (v : RootVerifier τ) (ledger : LedgerView) (now : τ) (root : Json) :
    Except Fault RootStatus :=
  RootStatus.ofResult (v.verify ledger now root).result

/-- The verifier after an occasion. Only a cached one knows a current root. -/
def after (v : RootVerifier τ) : Occasion τ → RootVerifier τ
  | .operation (.verify root) ledger now | .operation (.status root) ledger now =>
    (v.verify ledger.view now root).verifier
  | .operation .currentRoot ledger now =>
    match v.kind with
    | .cached => (v.currentRoot ledger.view now).verifier
    | .contract | .events => v
  | .operation (.verifyAndClose root) ledger now => (v.verifyAndClose ledger.view now root).verifier
  | .operation .close _ _ => v.close
  | .freed => { v with pool := v.pool.free }

def afterAll (v : RootVerifier τ) (occasions : List (Occasion τ)) : RootVerifier τ :=
  occasions.foldl after v

end RootVerifier
end IdentityProof

import IdentityProof.Root.Verifier

/-!
A cached verifier at work: requests one after the other, each at its time and with what the ledger
has to say then. A call that hangs keeps its worker until it ends.
-/

namespace IdentityProof

def Pool.free (pool : Pool) : Pool :=
  { pool with stuck := pool.stuck - 1 }

def LedgerView.telling (response : Response LedgerValue) : LedgerView where
  isRootValid _ := .timeout
  currentRoot := response
  firstEvent _ := .timeout

namespace Session

inductive Request where
  | verify (root : Json)
  | currentRoot
  | expiry

inductive Aim where
  | root (provided? : Option Root)
  | expiry
  deriving DecidableEq, Repr

inductive Grant (τ : Type) where
  | accepted
  | root (root : Root)
  | expiry (time? : Option τ)
  deriving DecidableEq, Repr

def Request.aim : Request → Except (Raised RootError) Aim
  | .verify root => (Root.parse root).map fun provided => .root (some provided)
  | .currentRoot => .ok (.root none)
  | .expiry => .ok .expiry

inductive Taken (τ : Type) where
  | root (provided? : Option Root) (result : Except (Raised RootError) Root)
  | expiry (time? : Option τ)

def Taken.answer : Taken τ → Except (Raised RootError) (Grant τ)
  | .root none result => result.map .root
  | .root (some provided) result => result.bind fun stored =>
    if stored = provided then .ok .accepted
    else .error (.refused (.invalid (.mismatch stored provided)))
  | .expiry time? => .ok (.expiry time?)

structure Use (ι τ : Type) where
  caller : ι
  request : Request
  now : τ
  ledger : LedgerView

inductive Event (ι τ : Type) where
  | use (u : Use ι τ)
  | freed

end Session

namespace RootVerifier

open Session

variable {ι τ : Type} [Add τ] [Sub τ] [LT τ] [DecidableLT τ]

def serve (v : RootVerifier τ) (u : Use ι τ) : RootStep τ (Grant τ) :=
  match u.request with
  | .verify root =>
    let step := v.verify u.ledger u.now root
    { step with result := step.result.map fun () => .accepted }
  | .currentRoot =>
    let step := v.currentRoot u.ledger u.now
    { step with result := step.result.map .root }
  | .expiry => { result := .ok (.expiry v.expiry?), verifier := v, call := none }

def next (v : RootVerifier τ) : Event ι τ → RootVerifier τ
  | .use u => (v.serve u).verifier
  | .freed => { v with pool := v.pool.free }

def run (v : RootVerifier τ) (events : List (Event ι τ)) : RootVerifier τ :=
  events.foldl next v

end RootVerifier

namespace Session

structure Turn (ι τ : Type) where
  use : Use ι τ
  before : RootVerifier τ

variable {ι τ : Type} [Add τ] [Sub τ] [LT τ] [DecidableLT τ]

def Turn.step (t : Turn ι τ) : RootStep τ (Grant τ) :=
  t.before.serve t.use

def turns (v : RootVerifier τ) : List (Event ι τ) → List (Turn ι τ)
  | [] => []
  | .use u :: events => ⟨u, v⟩ :: turns (v.next (.use u)) events
  | .freed :: events => turns (v.next (.freed : Event ι τ)) events

end Session
end IdentityProof

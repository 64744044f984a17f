import IdentityProof.Root.Ledger

/-!
Verifiers at work side by side, each with workers, a queue, a lock and a cache of its own. Any
number of callers check roots at once. The steps of the callers, of the workers, of the ledgers and
of the clock interleave in any way.
-/

namespace IdentityProof

namespace RootVerifier

variable {τ : Type} [Sub τ] [LT τ] [DecidableLT τ]

def consult (v : RootVerifier τ) (ledger : LedgerView) (now : τ) (provided : Root) :
    RootStep τ Unit :=
  match v.kind with
  | .contract => v.ask .isRootValid (ledger.isRootValid provided) (decideBy Json.isGiven)
  | .events => v.ask .findEvents (ledger.firstEvent provided) (decideBy isEvent)
  | .cached => compare provided (v.ask .currentRoot ledger.currentRoot (store now))

def withWorker (v : RootVerifier τ) : RootVerifier τ :=
  { v with pool := .ofCapacity 1 }

def missed (v : RootVerifier τ) : Except (Raised RootError) Unit :=
  .error (.refused (.unchecked (.missedDeadline v.kind.call v.timeout)))

end RootVerifier

namespace Fleet

inductive Stage (τ : Type) where
  | idle
  | entering (provided : Root)
  | waiting (provided : Root) (since : τ)
  /-- The call has ended, with the ledger as it was then. -/
  | answered (provided : Root) (since : τ) (ledger : Ledger)
  | done (result : Except (Raised RootError) Unit)

structure Member (ι τ : Type) where
  verifier : RootVerifier τ
  /-- Calls that no worker has taken, the oldest first. -/
  queue : List ι
  running : List ι
  lock : Option ι
  stage : ι → Stage τ
  /-- The calls that reached the ledger so far, and those that have ended. -/
  started : List ι
  ended : List ι

inductive Move (ι : Type) where
  | call (i : ι) (root : Json)
  | enter (i : ι)
  | begin
  | finish (i : ι) (ledger : Ledger)
  | collect (i : ι)
  | giveUp (i : ι)
  | close

variable {ι τ : Type}

namespace Member

def ofVerifier (v : RootVerifier τ) : Member ι τ where
  verifier := v
  queue := []
  running := []
  lock := none
  stage _ := .idle
  started := []
  ended := []

variable [DecidableEq ι]

def move (m : Member ι τ) (i : ι) (stage : Stage τ) : Member ι τ :=
  { m with stage := fun j => if j = i then stage else m.stage j }

def leave (m : Member ι τ) (i : ι) (result : Except (Raised RootError) Unit) : Member ι τ :=
  { m.move i (.done result) with lock := if m.lock = some i then none else m.lock }

def submit (m : Member ι τ) (i : ι) (provided : Root) (now : τ) : Member ι τ :=
  if m.verifier.pool.closed then m.leave i (.error (.fault .poolClosed))
  else { m.move i (.waiting provided now) with queue := m.queue ++ [i] }

variable [Add τ] [Sub τ] [LE τ] [LT τ] [DecidableLE τ] [DecidableLT τ]

/-- The caller is past its deadline by the delay, which is as late as a caller can be to give up. -/
def isOverdue (patience delay now : τ) (m : Member ι τ) (i : ι) : Bool :=
  match m.stage i with
  | .waiting _ since => since + patience + delay ≤ now
  | _ => false

/-- One step, none if it cannot be taken. A worker takes the oldest call of the queue, whose caller
is still there. From its deadline on a caller gives up, and its call is taken off the queue; one that
runs already runs on, and nobody reads its answer. -/
def step (patience delay now : τ) (m : Member ι τ) : Move ι → Option (Member ι τ)
  | .call i root =>
    match m.stage i with
    | .idle =>
      match Root.parse root with
      | .error e => some (m.move i (.done (.error e)))
      | .ok provided =>
        match m.verifier.kind with
        | .cached => some (m.move i (.entering provided))
        | .contract | .events => some (m.submit i provided now)
    | _ => none
  | .enter i =>
    match m.lock, m.stage i with
    | none, .entering provided =>
      match CachedRoot.serve? m.verifier.cache m.verifier.lifetime now with
      | some stored =>
        let served : RootStep τ Root :=
          { result := .ok stored, verifier := m.verifier, call := none }
        some (m.move i (.done (RootVerifier.compare provided served).result))
      | none => some ({ m with lock := some i }.submit i provided now)
    | _, _ => none
  | .begin =>
    match m.queue with
    | i :: queue =>
      if m.running.length < m.verifier.pool.capacity ∧ ¬ m.isOverdue patience delay now i then
        some { m with queue, running := i :: m.running, started := m.started ++ [i] }
      else none
    | [] => none
  | .finish i ledger =>
    if i ∈ m.running then
      let freed := { m with running := m.running.erase i, ended := m.ended ++ [i] }
      match m.stage i with
      | .waiting provided since =>
        match ledger.course provided m.verifier.kind with
        | .hangs => none
        | _ => some (freed.move i (.answered provided since ledger))
      | _ => some freed
    else none
  | .collect i =>
    match m.stage i with
    | .answered provided since ledger =>
      let check := m.verifier.withWorker.consult ledger.view since provided
      let verifier := { m.verifier with cache := check.verifier.cache }
      some ({ m with verifier }.leave i check.result)
    | _ => none
  | .giveUp i =>
    match m.stage i with
    | .waiting _ since =>
      if since + patience ≤ now then
        some ({ m with queue := m.queue.filter (· ≠ i) }.leave i m.verifier.missed)
      else none
    | _ => none
  | .close => some { m with verifier := m.verifier.close }

end Member

structure Setup (κ L τ : Type) where
  verifier : κ → RootVerifier τ
  patience : κ → τ
  /-- By how much a caller may be late to give up. With none it does so at its deadline. -/
  delay : κ → τ
  ledger : κ → L

structure State (κ ι L τ : Type) where
  clock : τ
  member : κ → Member ι τ
  calls : L → Nat

inductive Action (κ ι τ : Type) where
  | tick (later : τ)
  | act (k : κ) (move : Move ι)

variable {κ L : Type}

def Action.isOf [DecidableEq κ] (k : κ) : Action κ ι τ → Bool
  | .tick _ => false
  | .act j _ => j = k

namespace Setup

def start (c : Setup κ L τ) (clock : τ) : State κ ι L τ where
  clock
  member k := .ofVerifier (c.verifier k)
  calls _ := 0

variable [DecidableEq κ] [DecidableEq ι] [DecidableEq L]

def counted (c : Setup κ L τ) (k : κ) (calls : L → Nat) : Move ι → L → Nat
  | .begin => fun l => if l = c.ledger k then calls l + 1 else calls l
  | _ => calls

variable [Add τ] [Sub τ] [LE τ] [LT τ] [DecidableLE τ] [DecidableLT τ]

def step (c : Setup κ L τ) (s : State κ ι L τ) : Action κ ι τ → Option (State κ ι L τ)
  | .tick later => if s.clock ≤ later then some { s with clock := later } else none
  | .act k move =>
    ((s.member k).step (c.patience k) (c.delay k) s.clock move).map fun m =>
      { s with
        member := fun j => if j = k then m else s.member j
        calls := c.counted k s.calls move }

def run (c : Setup κ L τ) (s : State κ ι L τ) : List (Action κ ι τ) → Option (State κ ι L τ)
  | [] => some s
  | action :: actions => (c.step s action).bind fun s' => c.run s' actions

end Setup
end Fleet
end IdentityProof

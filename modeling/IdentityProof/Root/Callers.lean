import IdentityProof.Root.Session

/-!
Callers that share one cached verifier, each on a thread of its own. The root and the time at which
it was asked for are two variables behind one lock, which a caller holds from its first look at them
until it has written both. The steps of the callers, of the ledger and of the clock interleave in
any way.
-/

namespace IdentityProof.Callers

open Session

inductive Ending where
  | answer (value : LedgerValue)
  | failure (reason : String)
  | timeout

/-- The call that a caller waits for. It is carried out once a worker is free. -/
inductive Progress where
  | queued
  | running
  | ended (ending : Ending)

inductive Section (τ : Type) where
  | entered (aim : Aim)
  | fetching (provided? : Option Root) (since : τ) (call : Progress)
  | storing (provided? : Option Root) (since : τ) (root : Root)
  | stamping (provided? : Option Root) (since : τ) (root : Root)
  | leaving (taken : Taken τ)

inductive Stage (τ : Type) where
  | idle
  | waiting (aim : Aim)
  | inside
  | left (taken : Taken τ)
  | done (answer : Except (Raised RootError) (Grant τ))

structure Setup (ι τ : Type) where
  request : ι → Request
  timeout : String
  lifetime : τ
  capacity : Nat

structure State (ι τ : Type) where
  clock : τ
  root : Option Root
  fetchedAt : τ
  /-- The callers whose calls run on although they have given up on them. -/
  abandoned : List ι
  lock : Option (ι × Section τ)
  stage : ι → Stage τ
  acquired : List ι
  /-- What happened to the verifier so far, told as a session. -/
  history : List (Event ι τ)

inductive Action (ι τ : Type) where
  | tick (later : τ)
  | call (i : ι)
  | acquire (i : ι)
  | look
  | begin
  | finish (ending : Ending)
  | collect
  | giveUp
  | late (i : ι) (ending : Ending)
  | store
  | stamp
  | release
  | conclude (i : ι)

def Ending.response : Ending → Response LedgerValue
  | .answer value => .answer value
  | .failure reason => .failure reason
  | .timeout => .timeout

variable {ι τ : Type}

namespace State

def kept (s : State ι τ) : Option (CachedRoot τ) :=
  s.root.map fun root => { root, fetchedAt := s.fetchedAt }

end State

namespace Setup

def verifier (c : Setup ι τ) : RootVerifier τ where
  kind := .cached
  timeout := c.timeout
  lifetime := c.lifetime
  pool := .ofCapacity c.capacity
  cache := none

def missed (c : Setup ι τ) : Raised RootError :=
  .refused (.unchecked (.missedDeadline .currentRoot c.timeout))

def after (c : Setup ι τ) (provided? : Option Root) (since : τ) : Ending → Section τ
  | .answer value =>
    match (RootVerifier.store since c.verifier value).1 with
    | .ok root => .storing provided? since root
    | .error e => .leaving (.root provided? (.error e))
  | .failure reason =>
    .leaving (.root provided? (.error (.refused (.unchecked (.callFailed .currentRoot reason)))))
  | .timeout => .leaving (.root provided? (.error c.missed))

def use (c : Setup ι τ) (i : ι) (now : τ) (response : Response LedgerValue) : Use ι τ where
  caller := i
  request := c.request i
  now
  ledger := .telling response

def turn (c : Setup ι τ) (s : State ι τ) (i : ι) (now : τ) (response : Response LedgerValue)
    (section' : Section τ) : State ι τ :=
  { s with
    lock := some (i, section')
    history := s.history ++ [.use (c.use i now response)] }

def start [Zero τ] (_ : Setup ι τ) (clock : τ) : State ι τ where
  clock
  root := none
  fetchedAt := 0
  abandoned := []
  lock := none
  stage _ := .idle
  acquired := []
  history := []

end Setup

variable [DecidableEq ι]

def State.move (s : State ι τ) (i : ι) (stage : Stage τ) : State ι τ :=
  { s with stage := fun j => if j = i then stage else s.stage j }

namespace Setup

variable [Add τ] [Sub τ] [LE τ] [LT τ] [DecidableLE τ] [DecidableLT τ]

/-- One step, none if it cannot be taken. A caller reads its request before it goes for the lock and
compares roots after it has let go of it. A call that its caller has given up on frees its worker
when it ends, and nobody reads its answer. -/
def step (c : Setup ι τ) (s : State ι τ) : Action ι τ → Option (State ι τ)
  | .tick later => if s.clock ≤ later then some { s with clock := later } else none
  | .call i =>
    match s.stage i with
    | .idle =>
      match (c.request i).aim with
      | .ok aim => some (s.move i (.waiting aim))
      | .error e => some (s.move i (.done (.error e)))
    | _ => none
  | .acquire i =>
    match s.lock, s.stage i with
    | none, .waiting aim =>
      some { s.move i .inside with
        lock := some (i, .entered aim)
        acquired := s.acquired ++ [i] }
    | _, _ => none
  | .look =>
    match s.lock with
    | some (i, .entered .expiry) =>
      let time? := s.kept.map fun entry => entry.fetchedAt + c.lifetime
      some (c.turn s i s.clock .timeout (.leaving (.expiry time?)))
    | some (i, .entered (.root provided?)) =>
      match CachedRoot.serve? s.kept c.lifetime s.clock with
      | some root => some (c.turn s i s.clock .timeout (.leaving (.root provided? (.ok root))))
      | none => some { s with lock := some (i, .fetching provided? s.clock .queued) }
    | _ => none
  | .begin =>
    match s.lock with
    | some (i, .fetching provided? since .queued) =>
      if s.abandoned.length < c.capacity then
        some { s with lock := some (i, .fetching provided? since .running) }
      else none
    | _ => none
  | .finish ending =>
    match s.lock with
    | some (i, .fetching provided? since .running) =>
      some { s with lock := some (i, .fetching provided? since (.ended ending)) }
    | _ => none
  | .collect =>
    match s.lock with
    | some (i, .fetching provided? since (.ended ending)) =>
      some (c.turn s i since ending.response (c.after provided? since ending))
    | _ => none
  | .giveUp =>
    match s.lock with
    | some (i, .fetching provided? since .queued) =>
      some (c.turn s i since .timeout (.leaving (.root provided? (.error c.missed))))
    | some (i, .fetching provided? since .running) =>
      some { c.turn s i since .hang (.leaving (.root provided? (.error c.missed))) with
        abandoned := i :: s.abandoned }
    | _ => none
  | .late i _ =>
    if i ∈ s.abandoned then
      some { s with abandoned := s.abandoned.erase i, history := s.history ++ [.freed] }
    else none
  | .store =>
    match s.lock with
    | some (i, .storing provided? since root) =>
      some { s with root := some root, lock := some (i, .stamping provided? since root) }
    | _ => none
  | .stamp =>
    match s.lock with
    | some (i, .stamping provided? since root) =>
      some { s with fetchedAt := since, lock := some (i, .leaving (.root provided? (.ok root))) }
    | _ => none
  | .release =>
    match s.lock with
    | some (i, .leaving taken) => some { s.move i (.left taken) with lock := none }
    | _ => none
  | .conclude i =>
    match s.stage i with
    | .left taken => some (s.move i (.done taken.answer))
    | _ => none

def run (c : Setup ι τ) (s : State ι τ) : List (Action ι τ) → Option (State ι τ)
  | [] => some s
  | action :: actions => (c.step s action).bind fun s' => c.run s' actions

end Setup
end IdentityProof.Callers

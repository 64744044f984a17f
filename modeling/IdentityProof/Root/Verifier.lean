import IdentityProof.Root.Cache
import IdentityProof.Root.Pool

/-!
Verifiers of roots. A contract verifier asks about each root, an events verifier looks for an event
that carries the root, and a cached verifier compares the root with the current one, which it asks
for again once the lifetime of its entry is over.
-/

namespace IdentityProof

/-- A value that a ledger gives for a root: bytes, or something else by mistake, which is assumed to
be nested no deeper than can be shown. -/
inductive LedgerValue where
  | bytes (b : Bytes)
  | json (j : Json)

namespace LedgerValue

def quoted : LedgerValue → Except Fault String
  | .bytes b => .ok (Text.quotedBytes b)
  | .json j => j.quoted

def toRoot? : LedgerValue → Option Root
  | .bytes b => Root.ofBytes? b
  | .json _ => none

end LedgerValue

structure LedgerView where
  isRootValid : Root → Response Json
  currentRoot : Response LedgerValue
  firstEvent : Root → Response (Option Json)

inductive RemoteKind where
  | contract
  | cached
  | events
  deriving DecidableEq, Repr

def RemoteKind.name : RemoteKind → String
  | .contract => "contract"
  | .cached => "cached"
  | .events => "events"

def RemoteKind.title : RemoteKind → String
  | .contract => "ContractRootVerifier"
  | .cached => "CachedRootVerifier"
  | .events => "EventsRootVerifier"

def RemoteKind.call : RemoteKind → RemoteCall
  | .contract => .isRootValid
  | .cached => .currentRoot
  | .events => .findEvents

structure RootVerifier (τ : Type) where
  kind : RemoteKind
  /-- The deadline as messages show it. It is assumed to be a time that can be waited for, which an
  infinite one is not. -/
  timeout : String
  lifetime : τ
  pool : Pool
  cache : Option (CachedRoot τ)

/-- What an operation of a verifier comes to: its result, the verifier after it, and the call that
reached the ledger, if one did. -/
structure RootStep (τ : Type) (α : Type) where
  result : Except (Raised RootError) α
  verifier : RootVerifier τ
  call : Option RemoteCall

def defaultTimeout : Number := .float (.ofInt 5)

def defaultLifetime : Number := .float (.ofInt 10)

def secondsGiven? (value : Json) : Except Fault (Option Number) :=
  if !value.isGiven then .ok none
  else
    match value.toNumber? with
    | some n => .ok (some n)
    | none => .error (.unordered ">" value.kind .int)

namespace RootVerifier

/-- A verifier that has made no call yet. Times that are not positive count as not given. -/
def start (kind : RemoteKind) (timeout lifetime : Option Number) (capacity : Nat) :
    RootVerifier Number :=
  { kind
    timeout := (Number.positiveOr defaultTimeout timeout).text
    lifetime := Number.positiveOr defaultLifetime lifetime
    pool := Pool.ofCapacity capacity
    cache := none }

def title (v : RootVerifier τ) : String :=
  v.kind.title ++ "(timeout=" ++ v.timeout ++ ")"

def lifetime? (v : RootVerifier τ) : Option τ :=
  match v.kind with
  | .cached => some v.lifetime
  | _ => none

def expiry? [Add τ] (v : RootVerifier τ) : Option τ :=
  v.cache.map fun entry => entry.fetchedAt + v.lifetime

variable {τ : Type} [Sub τ] [LT τ] [DecidableLT τ]

def ask (v : RootVerifier τ) (call : RemoteCall) (response : Response α)
    (next : RootVerifier τ → α → Except (Raised RootError) β × RootVerifier τ) : RootStep τ β :=
  match v.pool.submit response with
  | .error f => { result := .error (.fault f), verifier := v, call := none }
  | .ok submission =>
    let v := { v with pool := submission.pool }
    let call? := if submission.started then some call else none
    let fail (why : UncheckedRoot) : RootStep τ β :=
      { result := .error (.refused (.unchecked why)), verifier := v, call := call? }
    match submission.reply with
    | .missedDeadline => fail (.missedDeadline call v.timeout)
    | .failure reason => fail (.callFailed call reason)
    | .answer a =>
      let (result, v) := next v a
      { result, verifier := v, call := call? }

def store (now : τ) (v : RootVerifier τ) (answer : LedgerValue) :
    Except (Raised RootError) Root × RootVerifier τ :=
  match answer.toRoot? with
  | some root => (.ok root, { v with cache := some { root, fetchedAt := now } })
  | none =>
    (match answer.quoted with
    | .ok shown => .error (.refused (.unchecked (.malformedAnswer shown)))
    | .error f => .error (.fault f), v)

def currentRoot (v : RootVerifier τ) (ledger : LedgerView) (now : τ) : RootStep τ Root :=
  match CachedRoot.serve? v.cache v.lifetime now with
  | some root => { result := .ok root, verifier := v, call := none }
  | none => v.ask .currentRoot ledger.currentRoot (store now)

def decideBy (accepted : α → Bool) (v : RootVerifier τ) (answer : α) :
    Except (Raised RootError) Unit × RootVerifier τ :=
  (if accepted answer then .ok () else .error (.refused (.invalid .rejected)), v)

def isEvent (event : Option Json) : Bool :=
  match event with
  | none | some .null => false
  | some _ => true

def compare (provided : Root) (step : RootStep τ Root) : RootStep τ Unit :=
  { step with
    result := step.result.bind fun stored =>
      if stored = provided then .ok ()
      else .error (.refused (.invalid (.mismatch stored provided))) }

/-- Checks a root. A root that cannot be read is wrong, and no call is made for it. -/
def verify (v : RootVerifier τ) (ledger : LedgerView) (now : τ) (root : Json) : RootStep τ Unit :=
  match Root.parse root with
  | .error e => { result := .error e, verifier := v, call := none }
  | .ok provided =>
    match v.kind with
    | .contract => v.ask .isRootValid (ledger.isRootValid provided) (decideBy Json.isGiven)
    | .events => v.ask .findEvents (ledger.firstEvent provided) (decideBy isEvent)
    | .cached => compare provided (v.currentRoot ledger now)

def close (v : RootVerifier τ) : RootVerifier τ :=
  { v with pool := v.pool.close }

def verifyAndClose (v : RootVerifier τ) (ledger : LedgerView) (now : τ) (root : Json) :
    RootStep τ Unit :=
  let step := v.verify ledger now root
  { step with verifier := step.verifier.close }

end RootVerifier

inductive RootStatus where
  | valid
  | invalidRoot
  | infrastructureError
  deriving DecidableEq, Repr

def RootStatus.name : RootStatus → String
  | .valid => "valid"
  | .invalidRoot => "invalid_root"
  | .infrastructureError => "infrastructure_error"

def RootStatus.ofResult : Except (Raised RootError) Unit → Except Fault RootStatus
  | .ok () => .ok .valid
  | .error (.refused (.invalid _)) => .ok .invalidRoot
  | .error (.refused (.unchecked _)) => .ok .infrastructureError
  | .error (.fault f) => .error f

end IdentityProof

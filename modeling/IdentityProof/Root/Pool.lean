import IdentityProof.Root.Basic

/-!
The workers that carry the calls of one verifier to its ledger. A call that hangs keeps its worker
until it is released; with all workers kept, a further call is not started at all. Either way the
caller gives up at the deadline.
-/

namespace IdentityProof

inductive Response (α : Type) where
  | answer (a : α)
  | failure (reason : String)
  | timeout
  | hang

/-- What the caller sees of a call by its deadline. A timeout of the ledger itself looks the
same. -/
inductive Reply (α : Type) where
  | answer (a : α)
  | failure (reason : String)
  | missedDeadline

structure Pool where
  capacity : Nat
  /-- Workers kept by calls that hang. -/
  stuck : Nat
  closed : Bool
  deriving DecidableEq, Repr

namespace Pool

def defaultCapacity : Nat := 4

def capacityOf (value : Json) : Except Fault Nat :=
  match value.toInteger with
  | .ok n => if 0 < n then .ok n.toNat else .error .noWorkers
  | .error _ => .error (.unordered "<=" value.kind .int)

def ofCapacity (capacity : Nat) : Pool :=
  { capacity, stuck := 0, closed := false }

def close (pool : Pool) : Pool :=
  { pool with closed := true }

def release (pool : Pool) : Pool :=
  { pool with stuck := 0 }

/-- A call on its way through the pool: whether it was started, what came of it, and the pool
after it. -/
structure Submission (α : Type) where
  started : Bool
  reply : Reply α
  pool : Pool

def submit (pool : Pool) (response : Response α) : Except Fault (Submission α) :=
  if pool.closed then .error .poolClosed
  else if pool.capacity ≤ pool.stuck then
    .ok { started := false, reply := .missedDeadline, pool }
  else
    match response with
    | .answer a => .ok { started := true, reply := .answer a, pool }
    | .failure reason => .ok { started := true, reply := .failure reason, pool }
    | .timeout => .ok { started := true, reply := .missedDeadline, pool }
    | .hang =>
      let pool := { pool with stuck := pool.stuck + 1 }
      .ok { started := true, reply := .missedDeadline, pool }

end Pool
end IdentityProof

import IdentityProof.Root.Verifier

/-!
Root verifiers at work: ledgers whose answers are set in advance, a clock, and the verifiers that
use both under their names.
-/

namespace IdentityProof

structure LedgerError where
  isTimeout : Bool
  reason : String
  deriving DecidableEq, Repr

def LedgerError.toResponse (e : LedgerError) : Response α :=
  if e.isTimeout then .timeout else .failure e.reason

structure CallCounts where
  isRootValid : Nat
  currentRoot : Nat
  findEvents : Nat
  deriving DecidableEq, Repr

def CallCounts.zero : CallCounts := ⟨0, 0, 0⟩

def CallCounts.add (counts : CallCounts) : RemoteCall → CallCounts
  | .isRootValid => { counts with isRootValid := counts.isRootValid + 1 }
  | .currentRoot => { counts with currentRoot := counts.currentRoot + 1 }
  | .findEvents => { counts with findEvents := counts.findEvents + 1 }

structure ScriptedLedger where
  currentRoot : LedgerValue
  validRoots : List LedgerValue
  events : List (Bytes × List Json)
  error : Option LedgerError
  scanError : Option LedgerError
  isHanging : Bool
  fixedAnswer : Option Json
  counts : CallCounts

namespace ScriptedLedger

def respond (l : ScriptedLedger) (response : Response α) : Response α :=
  if l.isHanging then .hang
  else
    match l.error with
    | some e => e.toResponse
    | none => response

def holds (l : ScriptedLedger) (root : Root) : Bool :=
  l.validRoots.any fun
    | .bytes b => b == root.bytes
    | .json _ => false

def view (l : ScriptedLedger) : LedgerView where
  isRootValid root := l.respond (.answer (l.fixedAnswer.getD (.bool (l.holds root))))
  currentRoot := l.respond (.answer l.currentRoot)
  firstEvent root := l.respond <|
    match l.scanError with
    | some e => e.toResponse
    | none => .answer ((l.events.lookup root.bytes).bind List.head?)

end ScriptedLedger

inductive RootSource where
  | disabled
  | remote (name : String)
  deriving DecidableEq, Repr

def RootSource.disabledTitle : String := "DisabledRootVerifier"

structure BoundVerifier where
  ledger : String
  verifier : RootVerifier Number

structure World where
  clock : Number
  ledgers : List (String × ScriptedLedger)
  verifiers : List (String × BoundVerifier)

namespace World

def modifyEntry (name : String) (f : α → α) (entries : List (String × α)) : List (String × α) :=
  entries.map fun (n, a) => if n == name then (n, f a) else (n, a)

def advance (w : World) (seconds : Number) : World :=
  { w with clock := w.clock + seconds }

def setLedger (w : World) (name : String) (f : ScriptedLedger → ScriptedLedger) : World :=
  let ledgers := modifyEntry name f w.ledgers
  let hangs := ((ledgers.lookup name).map (·.isHanging)).getD false
  let verifiers := if hangs then w.verifiers else w.verifiers.map fun (n, b) =>
    if b.ledger == name then
      (n, { b with verifier := { b.verifier with pool := b.verifier.pool.release } })
    else (n, b)
  { w with ledgers, verifiers }

def run? (w : World) (name : String)
    (op : RootVerifier Number → LedgerView → Number → RootStep Number α) :
    Option (Except (Raised RootError) α × World) := do
  let bound ← w.verifiers.lookup name
  let ledger ← w.ledgers.lookup bound.ledger
  let step := op bound.verifier ledger.view w.clock
  let ledgers := match step.call with
    | some call =>
      modifyEntry bound.ledger (fun l => { l with counts := l.counts.add call }) w.ledgers
    | none => w.ledgers
  let verifiers := modifyEntry name (fun b => { b with verifier := step.verifier }) w.verifiers
  return (step.result, { w with ledgers, verifiers })

def check (w : World) (source : RootSource) (root : Json) :
    Except (Raised RootError) Unit × World :=
  match source with
  | .disabled => (.ok (), w)
  | .remote name => (w.run? name fun v ledger now => v.verify ledger now root).getD (.ok (), w)

def currentRoot (w : World) (source : RootSource) : Except (Raised RootError) Root × World :=
  match source with
  | .disabled => (.error (.fault (.noCurrentRoot RootSource.disabledTitle)), w)
  | .remote name =>
    let found := w.run? name fun v ledger now =>
      match v.kind with
      | .cached => v.currentRoot ledger now
      | kind =>
        { result := .error (.fault (.noCurrentRoot kind.title)), verifier := v, call := none }
    found.getD (.error (.fault (.noCurrentRoot RootSource.disabledTitle)), w)

def checkAndClose (w : World) (source : RootSource) (root : Json) :
    Except (Raised RootError) Unit × World :=
  match source with
  | .disabled => (.ok (), w)
  | .remote name =>
    (w.run? name fun v ledger now => v.verifyAndClose ledger now root).getD (.ok (), w)

def close (w : World) : RootSource → World
  | .disabled => w
  | .remote name =>
    { w with
      verifiers := modifyEntry name (fun b => { b with verifier := b.verifier.close }) w.verifiers }

end World
end IdentityProof

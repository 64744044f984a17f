import IdentityProof.Root.World

/-!
Ledgers as a verifier may meet them. A call returns, raises an error of any kind, or hangs, and the
first step of a scan for events does the same. Of the kinds of errors a caller can tell apart a
timeout alone.
-/

namespace IdentityProof

inductive RaiseKind where
  | timeout
  | endOfScan
  | invalidRoot
  | uncheckedRoot
  | other
  deriving DecidableEq, Repr

/-- An error by its kind and its text. It is assumed that an error of a ledger has a text that can be
made. -/
structure LedgerRaise where
  kind : RaiseKind
  reason : String
  deriving DecidableEq, Repr

/-- How a call goes. One that goes on beyond every deadline hangs. -/
inductive Conduct (α : Type) where
  | returns (a : α)
  | raises (e : LedgerRaise)
  | hangs

namespace Conduct

def map (f : α → β) : Conduct α → Conduct β
  | .returns a => .returns (f a)
  | .raises e => .raises e
  | .hangs => .hangs

def bind (c : Conduct α) (f : α → Conduct β) : Conduct β :=
  match c with
  | .returns a => f a
  | .raises e => .raises e
  | .hangs => .hangs

def response : Conduct α → Response α
  | .returns a => .answer a
  | .raises e => if e.kind = .timeout then .timeout else .failure e.reason
  | .hangs => .hang

/-- The first event of a scan, by the first step that the scan takes. One that is over has none. -/
def first : Conduct Json → Conduct (Option Json)
  | .returns event => .returns (some event)
  | .raises e => if e.kind = .endOfScan then .returns none else .raises e
  | .hangs => .hangs

end Conduct

structure Ledger where
  isRootValid : Root → Conduct Json
  currentRoot : Conduct LedgerValue
  /-- The call answers with a scan, which is told by its first step. -/
  findEvents : Root → Conduct (Conduct Json)

namespace Ledger

def firstEvent (l : Ledger) (root : Root) : Conduct (Option Json) :=
  (l.findEvents root).bind Conduct.first

def view (l : Ledger) : LedgerView where
  isRootValid root := (l.isRootValid root).response
  currentRoot := l.currentRoot.response
  firstEvent root := (l.firstEvent root).response

def course (l : Ledger) (root : Root) : RemoteKind → Conduct Unit
  | .contract => (l.isRootValid root).map fun _ => ()
  | .cached => l.currentRoot.map fun _ => ()
  | .events => (l.firstEvent root).map fun _ => ()

end Ledger

def LedgerError.toRaise (e : LedgerError) : LedgerRaise where
  kind := if e.isTimeout then .timeout else .other
  reason := e.reason

namespace ScriptedLedger

def conduct (l : ScriptedLedger) (c : Conduct α) : Conduct α :=
  if l.isHanging then .hangs
  else
    match l.error with
    | some e => .raises e.toRaise
    | none => c

def scan (l : ScriptedLedger) (root : Root) : Conduct Json :=
  match l.scanError, (l.events.lookup root.bytes).bind List.head? with
  | some e, _ => .raises e.toRaise
  | none, some event => .returns event
  | none, none => .raises { kind := .endOfScan, reason := "" }

def ledger (l : ScriptedLedger) : Ledger where
  isRootValid root := l.conduct (.returns (l.fixedAnswer.getD (.bool (l.holds root))))
  currentRoot := l.conduct (.returns l.currentRoot)
  findEvents root := l.conduct (.returns (l.scan root))

theorem response_toRaise (e : LedgerError) :
    (Conduct.raises e.toRaise : Conduct α).response = e.toResponse := by
  unfold Conduct.response LedgerError.toResponse LedgerError.toRaise
  cases e.isTimeout <;> rfl

theorem response_conduct (l : ScriptedLedger) (c : Conduct α) :
    (l.conduct c).response = l.respond c.response := by
  unfold conduct respond
  cases l.isHanging with
  | true => rfl
  | false =>
    cases l.error with
    | none => rfl
    | some e => exact response_toRaise e

theorem conduct_bind (l : ScriptedLedger) (c : Conduct α) (f : α → Conduct β) :
    (l.conduct c).bind f = l.conduct (c.bind f) := by
  unfold conduct
  cases l.isHanging with
  | true => rfl
  | false => cases l.error <;> rfl

theorem response_scan (l : ScriptedLedger) (root : Root) :
    (l.scan root).first.response =
      match l.scanError with
      | some e => e.toResponse
      | none => .answer ((l.events.lookup root.bytes).bind List.head?) := by
  unfold scan
  cases l.scanError with
  | some e =>
    have hkind : e.toRaise.kind ≠ .endOfScan := by
      obtain ⟨isTimeout, reason⟩ := e
      cases isTimeout <;> exact nofun
    simp only [Conduct.first, if_neg hkind, response_toRaise]
  | none => cases (l.events.lookup root.bytes).bind List.head? <;> rfl

theorem view_ledger (l : ScriptedLedger) : l.ledger.view = l.view := by
  have hevents (root : Root) : (l.ledger.firstEvent root).response = l.view.firstEvent root := by
    unfold Ledger.firstEvent ledger
    rw [conduct_bind, response_conduct]
    exact congrArg l.respond (response_scan l root)
  unfold Ledger.view
  simp only [hevents]
  unfold ledger view
  simp only [response_conduct]
  rfl

end ScriptedLedger
end IdentityProof

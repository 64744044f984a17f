import IdentityProof.Signal.Packing

/-!
Roots of the trees that proofs refer to: 32 bytes, written as a decimal in the signals. A root can
be found wrong, or it can remain unchecked; the two never mix.
-/

namespace IdentityProof

theorem Bytes.length_ofNatOnto (width n : Nat) (rest : Bytes) :
    (Bytes.ofNatOnto width n rest).length = width + rest.length := by
  induction width generalizing n rest with
  | zero => simp [Bytes.ofNatOnto]
  | succ width ih =>
    simp only [Bytes.ofNatOnto, ih, List.length_cons]
    omega

theorem Bytes.length_ofNat (width n : Nat) : (Bytes.ofNat width n).length = width := by
  simp [Bytes.ofNat, Bytes.length_ofNatOnto]

structure Root where
  bytes : Bytes
  length_eq : bytes.length = 32
  deriving DecidableEq, Repr

namespace Root

theorem length_ofNat (n : Nat) : (Bytes.ofNat 32 n).length = 32 :=
  Bytes.length_ofNat 32 n

def ofBytes? (bytes : Bytes) : Option Root :=
  if h : bytes.length = 32 then some ⟨bytes, h⟩ else none

/-- The root with the value of a number, none when the number is too large. -/
def ofNat? (n : Nat) : Option Root :=
  if n < Nat.pow 256 32 then some ⟨Bytes.ofNat 32 n, Bytes.length_ofNat 32 n⟩ else none

def ofSignal? (signal : String) : Except Fault (Option Root) := do
  return (← parseDecimal signal).bind ofNat?

def hex (r : Root) : String :=
  Text.hex r.bytes

end Root

inductive InvalidRoot where
  | unreadable (shown : String)
  | rejected
  | mismatch (stored provided : Root)
  deriving DecidableEq, Repr

def InvalidRoot.message : InvalidRoot → String
  | .unreadable shown => "invalid root passed: " ++ shown
  | .rejected => "invalid identity root"
  | .mismatch stored provided =>
    "root mismatch: stored " ++ stored.hex ++ ", provided " ++ provided.hex

inductive RemoteCall where
  | isRootValid
  | currentRoot
  | findEvents
  deriving DecidableEq, Repr

def RemoteCall.description : RemoteCall → String
  | .isRootValid => "call isRootValid"
  | .currentRoot => "get root from contract"
  | .findEvents => "filter RootUpdated events"

inductive UncheckedRoot where
  | missedDeadline (call : RemoteCall) (timeout : String)
  | callFailed (call : RemoteCall) (reason : String)
  | malformedAnswer (shown : String)
  deriving DecidableEq, Repr

def UncheckedRoot.message : UncheckedRoot → String
  | .missedDeadline call timeout => call.description ++ ": timed out after " ++ timeout ++ "s"
  | .callFailed call reason => call.description ++ ": " ++ reason
  | .malformedAnswer shown => "unexpected root returned by contract: " ++ shown

inductive RootError where
  | invalid (why : InvalidRoot)
  | unchecked (why : UncheckedRoot)
  deriving DecidableEq, Repr

def RootError.message : RootError → String
  | .invalid why => why.message
  | .unchecked why => why.message

def Root.parse (value : Json) : Except (Raised RootError) Root := do
  let found ← match value with
    | .text s => Fault.lift (Root.ofSignal? s)
    | _ => pure none
  match found with
  | some root => return root
  | none => throw (.refused (.invalid (.unreadable (← Fault.lift value.quoted))))

end IdentityProof

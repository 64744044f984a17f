import IdentityProof.Registry.Address
import IdentityProof.Root.Basic

/-!
The contract that keeps the roots and the requests that are made of it. A view is called without
arguments; events are searched by their signature and their root.
-/

namespace IdentityProof

inductive RootView where
  | current
  | masterTree
  deriving DecidableEq, Repr

namespace RootView

def all : List RootView := [current, masterTree]

def name : RootView → String
  | current => "getRoot"
  | masterTree => "icaoMasterTreeMerkleRoot"

def ofName? (name : String) : Option RootView :=
  all.find? fun v => v.name == name

end RootView

inductive RegistryError where
  | urlRequired
  | badAddress (shown : String)
  | unknownView (shown : String)
  deriving DecidableEq, Repr

def RegistryError.message : RegistryError → String
  | .urlRequired => "rpc url is required"
  | .badAddress shown => "invalid hex address: " ++ shown
  | .unknownView shown => "unknown root view: " ++ shown

structure Registry where
  url : Json
  address : ContractAddress
  view : RootView
  fromBlock : Json

structure RpcRequest where
  method : String
  params : List Json

namespace Registry

def addressOf? (value : Json) : Option ContractAddress :=
  match value with
  | .text s => ContractAddress.ofText? s
  | _ => none

def viewOf? (value : Json) : Option RootView :=
  match value with
  | .text s => RootView.ofName? s
  | _ => none

def make (url contract view fromBlock : Json) : Except (Raised RegistryError) Registry := do
  if !url.isGiven then throw (.refused .urlRequired)
  match addressOf? contract with
  | none => throw (.refused (.badAddress (← Fault.lift contract.quoted)))
  | some address =>
    match viewOf? view with
    | none => throw (.refused (.unknownView (← Fault.lift view.quoted)))
    | some view => return { url, address, view, fromBlock }

def hexText (bytes : Bytes) : String :=
  "0x" ++ Text.hex bytes

def selector (signature : String) : Bytes :=
  (Keccak.digestText signature).take 4

def call (r : Registry) (data : Bytes) : RpcRequest :=
  { method := "eth_call"
    params := [
      .object [("to", .text r.address.text), ("data", .text (hexText data))], .text "latest"] }

/-- Asks whether a root is valid. Only a root of 32 bytes can be asked about. -/
def validityRequest? (r : Registry) (root : Bytes) : Option RpcRequest :=
  if root.length = 32 then some (r.call (selector "isRootValid(bytes32)" ++ root)) else none

def rootRequest (r : Registry) : RpcRequest :=
  r.call (selector (r.view.name ++ "()"))

def quantity (n : Int) : String :=
  (if n < 0 then "-0x" else "0x") ++ String.ofList (Nat.toDigits 16 n.natAbs)

def blockParameter (block : Json) : Json :=
  match block with
  | .number (.int n) => .text (quantity n)
  | other => other

def eventsRequest (r : Registry) (root : Bytes) (fromBlock : Json) : RpcRequest :=
  { method := "eth_getLogs"
    params := [.object [
      ("address", .array [.text r.address.text]),
      ("fromBlock", blockParameter (match fromBlock with
        | .null => r.fromBlock
        | block => block)),
      ("toBlock", .text "latest"),
      ("topics", .array [
        .text (hexText (Keccak.digestText "RootUpdated(bytes32)")), .text (hexText root)])]] }

end Registry
end IdentityProof

import IdentityProof.Registry.Address
import IdentityProof.Signal.Packing

/-!
Answers of a contract as values. A view answers with one word of 32 bytes, a search with a list of
events, each given by its fields or by a single hash.
-/

namespace IdentityProof

inductive AnswerError where
  | undecodable
  | notHex
  | notAscii
  | notBytes
  | negative
  | notEvents
  | wrongHash
  | badField
  | badFieldKind
  deriving DecidableEq, Repr

def AnswerError.inField : AnswerError → AnswerError
  | .notBytes | .badFieldKind => .badFieldKind
  | _ => .badField

namespace ContractAnswer

/-- The bytes of hexadecimal text. A digit that is missing in front counts as zero. -/
def bytesOfText (text : String) : Except AnswerError Bytes :=
  let digits := ContractAddress.dropHexMark text.toList
  if !digits.all Text.isAscii then .error .notAscii
  else
    match Text.bytesOfHexChars (if digits.length % 2 = 1 then '0' :: digits else digits) with
    | some bytes => .ok bytes
    | none => .error .notHex

def bytes (answer : Json) : Except AnswerError Bytes :=
  match answer with
  | .text s => bytesOfText s
  | .bool b => .ok [if b then 1 else 0]
  | .number (.int n) =>
    if n < 0 then .error .negative
    else if n = 0 then .ok [0]
    else .ok (Bytes.ofNatMinimal n.toNat)
  | _ => .error .notBytes

def word (answer : Json) : Except AnswerError Bytes := do
  let bytes ← bytes answer
  if bytes.length < 32 then throw .undecodable else return bytes.take 32

def validity (answer : Json) : Except AnswerError Bool := do
  match Bytes.toNat (← word answer) with
  | 0 => return false
  | 1 => return true
  | _ => throw .undecodable

def paddingOf (length : Nat) : Nat :=
  if 32 ≤ length then length - 32 else 2 * length - 32

/-- A hash of 32 bytes, or of another length with zeros in front. -/
def checkHash (value : Json) : Except AnswerError Unit := do
  let bytes ← bytes value
  if bytes.length = 32 || (bytes.take (paddingOf bytes.length)).all (· == 0) then return ()
  else throw .wrongHash

def checkQuantity (value : Json) : Except AnswerError Unit :=
  match value with
  | .text s =>
    match Integer.read .sixteen s.toList with
    | .ok _ => .ok ()
    | .error _ => .error .badField
  | _ => .ok ()

def checkAddress (value : Json) : Except AnswerError Unit :=
  match value with
  | .text s => if (ContractAddress.ofText? s).isSome then .ok () else .error .badField
  | .number (.int n) =>
    if 0 ≤ n && (Nat.toDigits 16 n.toNat).length = 40 then .ok () else .error .badField
  | .bool _ => .error .badField
  | _ => .error .badFieldKind

def checkTopics (value : Json) : Except AnswerError Unit :=
  match value with
  | .array topics => topics.forM checkHash
  | .text _ | .bool _ => .ok ()
  | _ => .error .badFieldKind

/-- The fields of an event that have a form of their own. Those that may be missing may be null. -/
def checkField (name : String) (value : Json) : Except AnswerError Unit :=
  let result : Except AnswerError Unit := match name, value with
    | "blockHash", .null | "transactionHash", .null => .ok ()
    | "blockHash", value | "transactionHash", value => checkHash value
    | "blockNumber", value | "transactionIndex", value | "logIndex", value => checkQuantity value
    | "address", value => checkAddress value
    | "topics", value => checkTopics value
    | "data", value => (bytes value).map fun _ => ()
    | _, _ => .ok ()
  result.mapError AnswerError.inField

def checkEvent : Json → Except AnswerError Unit
  | .object fields => fields.forM fun (name, value) => checkField name value
  | value => checkHash value

def isObject : Json → Bool
  | .object _ => true
  | _ => false

def isText : Json → Bool
  | .text _ => true
  | _ => false

def eventCount (answer : Json) : Except AnswerError Nat := do
  match answer with
  | .array events =>
    if events.all isObject || events.all isText then
      events.forM checkEvent
      return events.length
    else throw .notEvents
  | _ => throw .notEvents

end ContractAnswer
end IdentityProof

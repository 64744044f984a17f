import IdentityProof.Calendar.Moment
import IdentityProof.Rule.EventData
import IdentityProof.Signal.PackedDate

/-!
Rules for a single value. A rule accepts a value, refuses it, or meets a fault, which no outcome of
a check covers. Of several rules the first refusal counts.
-/

namespace IdentityProof

inductive RuleError where
  | blank
  | notAccepted
  | aboveLimit (limit : String)
  | notText (kind : Json.Kind)
  | notDecimal (shown : String)
  | badDate (why : PackedDate.Refusal)
  | datesDiffer
  | tooLate
  | tooEarly
  | eventDataDiffers
  | addressDiffers
  | notAddressWords
  | wrongLength (expected : Nat)
  | badCounter (shown : String)
  | badTimestamp (shown : String)
  deriving DecidableEq, Repr

def RuleError.message : RuleError → String
  | .blank => "cannot be blank"
  | .notAccepted => "must be a valid value"
  | .aboveLimit limit => "must be no greater than " ++ limit
  | .notText kind => "invalid type: " ++ kind.name ++ ", expected string"
  | .notDecimal shown => "failed to parse big integer: " ++ shown
  | .badDate why => "invalid date string: " ++ why.message
  | .datesDiffer => "dates are not equal"
  | .tooLate => "date is too late"
  | .tooEarly => "date is too early"
  | .eventDataDiffers => "event data does not match"
  | .addressDiffers => "address does not match"
  | .notAddressWords => "event data is not a bech32 payload"
  | .wrongLength expected => "the length must be exactly " ++ toString expected
  | .badCounter shown => "invalid integer: " ++ shown
  | .badTimestamp shown => "invalid timestamp: " ++ shown

abbrev Check := Except (Raised RuleError) Unit

def refuse (e : RuleError) : Except (Raised RuleError) α :=
  .error (.refused e)

def PackedDate.unpack (signal : String) : Except (Raised RuleError) Date := do
  match ← Fault.lift (parseDecimal signal) with
  | none => refuse (.notDecimal (Text.quoted signal))
  | some _ =>
    let text ← Fault.lift (Packing.unpackText signal)
    match PackedDate.parse text with
    | .ok date => return date
    | .error why => refuse (.badDate why)

def PackedDate.unpackValue (value : Json) : Except (Raised RuleError) Date := do
  match value with
  | .text s => PackedDate.unpack s
  | other => refuse (.notDecimal (← Fault.lift other.quoted))

namespace EventData

/-- A signal of twenty bytes is an address in bytes, any other one an address in words, to which
the zero words at its front are restored. -/
def checkAddress (bound : BoundAddress) (payload : Bytes) : Check :=
  if payload.length = 20 then
    if payload = bound.raw then .ok () else refuse .addressDiffers
  else
    let words := List.replicate (bound.words.length - payload.length) 0 ++ payload.map UInt8.toNat
    if words.any (32 ≤ ·) then refuse .notAddressWords
    else if String.ofList (Bech32.encode bound.label.toList words) = bound.address then .ok ()
    else refuse .addressDiffers

def check (rule : EventData) (signal : String) : Check := do
  let payload ← Fault.lift (Packing.unpack signal)
  match rule with
  | .bytes expected => if payload = expected then return () else refuse .eventDataDiffers
  | .address bound => checkAddress bound payload

end EventData

inductive DateMode where
  | before
  | after
  | equal
  deriving DecidableEq, Repr

/-- Compares a date with a moment. A date stands for its midnight, and equality looks at the day
alone. -/
def DateMode.check (mode : DateMode) (point : Moment) (date : Date) : Check :=
  match mode with
  | .equal => if date = point.date then .ok () else refuse .datesDiffer
  | .before => if point < Moment.midnight date then refuse .tooLate else .ok ()
  | .after => if Moment.midnight date < point then refuse .tooEarly else .ok ()

inductive Rule where
  | required
  | oneOf (accepted : List Json)
  | atMost (limit : Json)
  | date (mode : DateMode) (point : Moment)
  | eventData (rule : EventData)

namespace Rule

def check (rule : Rule) (value : Json) : Check :=
  match rule with
  | .required =>
    match value with
    | .null | .text "" => refuse .blank
    | _ => .ok ()
  | .oneOf accepted => if accepted.any value.same then .ok () else refuse .notAccepted
  | .atMost limit => do
    if ← Fault.lift (value.greater limit) then refuse (.aboveLimit (← Fault.lift limit.shown))
  | .date mode point =>
    match value with
    | .text s => do mode.check point (← PackedDate.unpack s)
    | other => refuse (.notText other.kind)
  | .eventData rule =>
    match value with
    | .text s => rule.check s
    | other => refuse (.notText other.kind)

end Rule
end IdentityProof

import IdentityProof.Policy.Basic
import IdentityProof.Verification.Error

/-!
The signals of a proof against a policy. Every check looks at its own signal and its own part of the
policy; a part that is not set is not checked. Age and limits of identities can each be shown in two
ways, of which one is enough.
-/

namespace IdentityProof

namespace Policy

def acceptedOutcome (accepted : List Json) (value : String) : Except Fault (Outcome RuleError) :=
  Rule.checkIfSet accepted.isEmpty [.oneOf accepted] (.text value)

def equalOutcome (option : Json) (value : String) : Except Fault (Outcome RuleError) :=
  Rule.checkIfSet option.isUnset [.oneOf [option]] (.text value)

def eventDataOutcome (p : Policy) (signal : String) : Except Fault (Outcome RuleError) :=
  match p.eventData with
  | none => .ok .skipped
  | some rule => Rule.checkIfSet false [.eventData rule] (.text signal)

def passportOutcomes (p : Policy) (signal : Signal → String) :
    Except Fault (List (String × Outcome RuleError)) := do
  let selector ← equalOutcome p.selector (signal .selector)
  let eventId ← equalOutcome p.eventId (signal .eventId)
  let citizenship ← acceptedOutcome p.citizenships (← Packing.unpackText (signal .citizenship))
  let eventData ← p.eventDataOutcome (signal .eventData)
  let documentType ← equalOutcome p.documentType (← Packing.unpackText (signal .documentType))
  return [
    (Signal.selector.path, selector), (Signal.eventId.path, eventId),
    (Signal.citizenship.path, citizenship), (Signal.eventData.path, eventData),
    (Signal.documentType.path, documentType)]

def georgianOutcomes (now : Moment) (signal : Signal → String) :
    Except Fault (List (String × Outcome RuleError)) := do
  let yesterday ← now.startOfDay.previousDay
  let tomorrow ← now.startOfDay.nextDay
  let currentDate ← Rule.checkAll [.required, .date .after yesterday, .date .before tomorrow]
    (.text (signal .currentDate))
  let number ← Rule.checkAll [.required] (.text (signal .personalNumberHash))
  return [(Signal.currentDate.path, currentDate), (Signal.personalNumberHash.path, number)]

def georgianOutcomesOf (p : Policy) (now : Moment) (signal : Signal → String) :
    Except Fault (List (String × Outcome RuleError)) :=
  match p.proofType with
  | .georgianPassport => georgianOutcomes now signal
  | _ => .ok []

def birthDateFailures (p : Policy) (now : Moment) (signal : Signal → String) :
    Except Fault (Failures RuleError) := do
  if p.age.isUnset then return []
  let cutoff ← now.yearsAgo (← p.age.toInteger)
  let shown ← Rule.checkAll [.required, .date .before cutoff] (.text (signal .birthDate))
  let bounded ← Rule.checkAll [.required, .date .equal cutoff] (.text (signal .birthDateUpperBound))
  return Failures.ofEither (Signal.birthDate.path, shown) (Signal.birthDateUpperBound.path, bounded)

def dateOutcome (mode : DateMode) (point : Moment) (signal : String) :
    Except Fault (Outcome RuleError) :=
  if PackedDate.isUnset signal then .ok .skipped
  else Rule.checkAll [.date mode point] (.text signal)

/-- A document has not expired, and its proof was made today. -/
def expirationFailures (p : Policy) (now : Moment) (signal : Signal → String) :
    Except Fault (Failures RuleError) := do
  if p.skipsExpiration then return []
  let bound ← dateOutcome .equal now (signal .expirationDateLowerBound)
  let expiration ← dateOutcome .after now (signal .expirationDate)
  return Failures.ofOutcomes [
    (Signal.expirationDateLowerBound.path, bound), (Signal.expirationDate.path, expiration)]

def counterOutcome (p : Policy) (signal : String) : Except Fault (Outcome RuleError) := do
  if p.maxIdentities.isUnset then return .skipped
  match ← parseDecimal signal with
  | none => return .failed (.badCounter (Text.quoted signal))
  | some count => Rule.checkAll [.atMost p.maxIdentities] (.int count)

/-- A timestamp beyond the calendar is no timestamp. -/
def timestampOutcome (p : Policy) (signal : String) : Except Fault (Outcome RuleError) := do
  match p.createdBy with
  | none => return .skipped
  | some limit =>
    let moment? := (← parseDecimal signal).bind fun n => (Moment.ofUnixSeconds n).toOption
    match moment? with
    | none => return .failed (.badTimestamp (Text.quoted signal))
    | some moment =>
      return if limit < moment then .failed (.aboveLimit limit.text) else .pass

def identityFailures (p : Policy) (signal : Signal → String) :
    Except Fault (Failures RuleError) := do
  let counter ← p.counterOutcome (signal .identityCounterUpperBound)
  let timestamp ← p.timestampOutcome (signal .timestampUpperBound)
  return Failures.ofEither
    (Signal.identityCounterUpperBound.path, counter) (Signal.timestampUpperBound.path, timestamp)

def passportFailures (p : Policy) (now : Moment) (signal : Signal → String) :
    Except Fault (Failures RuleError) := do
  let outcomes ← p.passportOutcomes signal
  let georgian ← p.georgianOutcomesOf now signal
  let birthDate ← p.birthDateFailures now signal
  let expiration ← p.expirationFailures now signal
  let identities ← p.identityFailures signal
  return [birthDate, expiration, identities].foldl Failures.union
    (Failures.ofOutcomes (outcomes ++ georgian))

def pollFailures (p : Policy) (signal : Signal → String) : Except Fault (Failures RuleError) := do
  let participation ← equalOutcome p.participationEventId (signal .participationEventId)
  let eventId ← equalOutcome p.eventId (signal .eventId)
  return Failures.ofOutcomes [
    (Signal.participationEventId.path, participation), (Signal.eventId.path, eventId)]

/-- Where the root of a proof is checked, and the signal that holds it. -/
def rootQuestion (p : Policy) : RootSource × Signal :=
  if p.proofType.isPassport then (p.passportRoot, .idStateRoot)
  else (p.pollRoot, .nullifiersTreeRoot)

def ruleFailures (p : Policy) (now : Moment) (signal : Signal → String) :
    Except Fault (Failures RuleError) :=
  if p.proofType.isPassport then p.passportFailures now signal else p.pollFailures signal

def signalFailures (p : Policy) (now : Moment) (wrongRoot : Option InvalidRoot)
    (signal : Signal → String) : Except Fault (Failures FieldError) := do
  let failures ← p.ruleFailures now signal
  let root := wrongRoot.toList.map fun why => (p.rootQuestion.2.path, FieldError.root why)
  return root ++ failures.map fun (field, e) => (field, .rule e)

end Policy
end IdentityProof

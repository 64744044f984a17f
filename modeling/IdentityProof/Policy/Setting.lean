import IdentityProof.Policy.Basic

/-!
Settings: each writes one part of a policy, and of several settings of one part the last counts.
A setting whose value makes no sense is refused before any policy is made.
-/

namespace IdentityProof

inductive Setting where
  | proofType (t : ProofType)
  | age (years : Json)
  | citizenships (accepted : List Json)
  | eventId (id : Json)
  | eventData (rule : Option EventData)
  | documentType (code : Json)
  | selector (value : Json)
  | maxIdentities (limit : Json)
  | createdBy (moment : Moment)
  | participationEventId (id : Json)
  | keyFile (path : String)
  | passportRoot (source : RootSource)
  | pollRoot (source : RootSource)
  | skipExpiration

inductive SettingError where
  | unknownProofType (e : UnknownProofType)
  | negativeAge (shown : String)
  | badAddress (e : AddressError)
  | badTimestamp (shown : String) (why : Fault)
  deriving DecidableEq, Repr

def SettingError.message : SettingError → String
  | .unknownProofType e => e.message
  | .negativeAge shown => "age must be non-negative, got " ++ shown
  | .badAddress e => e.message
  | .badTimestamp shown why =>
    "invalid identity creation timestamp limit " ++ shown ++ ": " ++ why.message

namespace Setting

def ofProofType (value : Json) : Except (Raised SettingError) Setting :=
  ((ProofType.ofJson value).map .proofType).mapError (.map .unknownProofType)

def ofAge (years : Json) : Except (Raised SettingError) Setting :=
  match years.toNumber? with
  | none => .error (.fault (.unordered "<" years.kind .int))
  | some n =>
    if n < 0 then do throw (.refused (.negativeAge (← Fault.lift years.shown)))
    else .ok (.age years)

/-- Event data that must be equal to some bytes. No bytes at all take the rule away. -/
def ofEventData (bytes : Bytes) : Setting :=
  .eventData (if bytes.isEmpty then none else some (.bytes bytes))

def ofAddress (address label : Json) : Except (Raised SettingError) Setting :=
  ((BoundAddress.parse address label).map fun bound =>
    .eventData (some (.address bound))).mapError (.map .badAddress)

def ofTimestamp (value : Json) : Except (Raised SettingError) Setting :=
  match Moment.ofTimestamp value with
  | .ok moment => .ok (.createdBy moment)
  | .error why => do throw (.refused (.badTimestamp (← Fault.lift value.quoted) why))

def apply (policy : Policy) : Setting → Policy
  | .proofType t => { policy with proofType := t }
  | .age years => { policy with age := years }
  | .citizenships accepted => { policy with citizenships := accepted }
  | .eventId id => { policy with eventId := id }
  | .eventData rule => { policy with eventData := rule }
  | .documentType code => { policy with documentType := code }
  | .selector value => { policy with selector := value }
  | .maxIdentities limit => { policy with maxIdentities := limit }
  | .createdBy moment => { policy with createdBy := moment }
  | .participationEventId id => { policy with participationEventId := id }
  | .keyFile path => { policy with keyFile := path }
  | .passportRoot source => { policy with passportRoot := source }
  | .pollRoot source => { policy with pollRoot := source }
  | .skipExpiration => { policy with skipsExpiration := true }

end Setting

/-- The policy after some settings. With `reset` everything but the type of proof is unset
first. -/
def Policy.merge (reset : Bool) (base : Policy) (settings : List Setting) : Policy :=
  settings.foldl Setting.apply (if reset then .unset base.proofType else base)

def Policy.mergeKeepsBase (reset : Bool) (settings : List Setting) : Bool :=
  !reset && settings.isEmpty

end IdentityProof

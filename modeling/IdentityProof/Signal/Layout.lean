import IdentityProof.Json.Text

/-!
Public signals by name. Every type of proof fixes how many signals it has and at which index each
of them stands; some indexes belong to no named signal.
-/

namespace IdentityProof

inductive ProofType where
  | globalPassport
  | georgianPassport
  | pollParticipation
  deriving DecidableEq, Repr

inductive Signal where
  | nullifier
  | birthDate
  | expirationDate
  | citizenship
  | eventId
  | eventData
  | idStateRoot
  | selector
  | timestampUpperBound
  | identityCounterUpperBound
  | birthDateUpperBound
  | expirationDateLowerBound
  | personalNumberHash
  | documentType
  | currentDate
  | participationEventId
  | nullifiersTreeRoot
  deriving DecidableEq, Repr

structure UnknownProofType where
  given : String
  deriving DecidableEq, Repr

def UnknownProofType.message (e : UnknownProofType) : String :=
  "unknown proof type: " ++ e.given

namespace ProofType

def all : List ProofType := [globalPassport, georgianPassport, pollParticipation]

def name : ProofType → String
  | globalPassport => "global_passport"
  | georgianPassport => "georgian_passport"
  | pollParticipation => "poll_participation"

def ofName? (name : String) : Option ProofType :=
  all.find? fun t => t.name == name

def ofJson (value : Json) : Except (Raised UnknownProofType) ProofType := do
  let named := match value with
    | .text s => ofName? s
    | _ => none
  match named with
  | some t => return t
  | none =>
    let given ← Fault.lift value.quoted
    throw (.refused { given })

def isPassport : ProofType → Bool
  | globalPassport | georgianPassport => true
  | pollParticipation => false

def signalCount : ProofType → Nat
  | globalPassport => 22
  | georgianPassport => 24
  | pollParticipation => 4

def layout : ProofType → List (Signal × Nat)
  | globalPassport => [
      (.nullifier, 0), (.birthDate, 1), (.expirationDate, 2), (.citizenship, 6), (.eventId, 9),
      (.eventData, 10), (.idStateRoot, 11), (.selector, 12), (.timestampUpperBound, 14),
      (.identityCounterUpperBound, 16), (.birthDateUpperBound, 18), (.expirationDateLowerBound, 19)]
  | georgianPassport => [
      (.nullifier, 0), (.birthDate, 1), (.expirationDate, 2), (.citizenship, 5),
      (.personalNumberHash, 8), (.documentType, 9), (.eventId, 10), (.eventData, 11),
      (.idStateRoot, 12), (.selector, 13), (.currentDate, 14), (.timestampUpperBound, 16),
      (.identityCounterUpperBound, 18), (.birthDateUpperBound, 20), (.expirationDateLowerBound, 21)]
  | pollParticipation => [
      (.nullifier, 0), (.nullifiersTreeRoot, 1), (.participationEventId, 2), (.eventId, 3)]

/-- The index of a signal, none when the type has no such signal. -/
def index? (t : ProofType) (s : Signal) : Option Nat :=
  t.layout.lookup s

def signal (t : ProofType) (signals : List String) (s : Signal) : String :=
  match t.index? s with
  | some i => signals.getD i ""
  | none => ""

end ProofType

namespace Signal

def all : List Signal := [
  nullifier, birthDate, expirationDate, citizenship, eventId, eventData, idStateRoot, selector,
  timestampUpperBound, identityCounterUpperBound, birthDateUpperBound, expirationDateLowerBound,
  personalNumberHash, documentType, currentDate, participationEventId, nullifiersTreeRoot]

def name : Signal → String
  | nullifier => "nullifier"
  | birthDate => "birth_date"
  | expirationDate => "expiration_date"
  | citizenship => "citizenship"
  | eventId => "event_id"
  | eventData => "event_data"
  | idStateRoot => "id_state_root"
  | selector => "selector"
  | timestampUpperBound => "timestamp_upper_bound"
  | identityCounterUpperBound => "identity_counter_upper_bound"
  | birthDateUpperBound => "birth_date_upper_bound"
  | expirationDateLowerBound => "expiration_date_lower_bound"
  | personalNumberHash => "personal_number_hash"
  | documentType => "document_type"
  | currentDate => "current_date"
  | participationEventId => "participation_event_id"
  | nullifiersTreeRoot => "nullifiers_tree_root"

def ofName? (name : String) : Option Signal :=
  all.find? fun s => s.name == name

def named (value : Json) : Except Fault Signal := do
  let found := match value with
    | .text name => ofName? name
    | _ => none
  match found with
  | some s => return s
  | none => throw (.unknownSignal (← value.quoted))

def path (s : Signal) : String :=
  "pub_signals/" ++ s.name

end Signal
end IdentityProof

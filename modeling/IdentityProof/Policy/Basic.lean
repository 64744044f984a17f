import IdentityProof.Rule.Outcome
import IdentityProof.Root.World
import IdentityProof.Signal.Layout

/-!
Policies: what a verification asks of a proof. A part that is not set asks for nothing.
-/

namespace IdentityProof

/-- Parts are kept as the values that are given for them, whatever their kind. -/
structure Policy where
  proofType : ProofType
  age : Json
  citizenships : List Json
  eventId : Json
  eventData : Option EventData
  documentType : Json
  selector : Json
  maxIdentities : Json
  createdBy : Option Moment
  participationEventId : Json
  keyFile : String
  passportRoot : RootSource
  pollRoot : RootSource
  skipsExpiration : Bool

namespace Policy

def unsetNumber : Json := .int (-1)

def unsetText : Json := .text ""

def unset (proofType : ProofType) : Policy :=
  { proofType
    age := unsetNumber
    citizenships := []
    eventId := unsetText
    eventData := none
    documentType := unsetText
    selector := unsetText
    maxIdentities := unsetNumber
    createdBy := none
    participationEventId := unsetText
    keyFile := ""
    passportRoot := .disabled
    pollRoot := .disabled
    skipsExpiration := false }

def default : Policy := unset .globalPassport

def same (p q : Policy) : Bool :=
  p.proofType == q.proofType && p.age.same q.age && Json.sameItems p.citizenships q.citizenships &&
  p.eventId.same q.eventId && p.eventData == q.eventData && p.documentType.same q.documentType &&
  p.selector.same q.selector && p.maxIdentities.same q.maxIdentities &&
  p.createdBy == q.createdBy && p.participationEventId.same q.participationEventId &&
  p.keyFile == q.keyFile &&
  p.passportRoot == q.passportRoot && p.pollRoot == q.pollRoot &&
  p.skipsExpiration == q.skipsExpiration

end Policy
end IdentityProof

import IdentityProof.Bech32
import IdentityProof.Json.Text

/-!
What the event data of a proof may be bound to: given bytes, or a Bech32 address.
-/

namespace IdentityProof

structure BoundAddress where
  address : String
  label : String
  words : List Nat
  raw : Bytes
  deriving DecidableEq, Repr

inductive AddressError where
  | malformed (shown : String)
  | otherLabel (found shown : String)
  | badPayload (shown : String)
  deriving DecidableEq, Repr

def AddressError.message : AddressError → String
  | .malformed shown => "invalid bech32 address: " ++ shown
  | .otherLabel found shown =>
    "address prefix " ++ Text.quoted found ++ " does not match " ++ shown
  | .badPayload shown => "invalid bech32 address payload: " ++ shown

namespace BoundAddress

def defaultLabel : Json := .text "rarimo"

def ofText (address : String) (label : Json) : Except (Raised AddressError) BoundAddress := do
  match Bech32.decode? address.toList with
  | none => throw (.refused (.malformed (Text.quoted address)))
  | some (found, words) =>
    if !(Json.text (String.ofList found)).same label then
      throw (.refused (.otherLabel (String.ofList found) (← Fault.lift label.quoted)))
    match Bech32.toBytes? words with
    | none => throw (.refused (.badPayload (Text.quoted address)))
    | some raw =>
      return { address := String.ofList (address.toList.map Char.toLower)
               label := String.ofList found
               words
               raw }

def isVisibleEntry : Json → Except Fault Bool
  | .text s =>
    match s.toList with
    | [c] => .ok (Bech32.isVisible c)
    | cs => .error (.notCharacter cs.length)
  | other => .error (.notCharacterText other.kind)

def areVisible : List Json → Except Fault Bool
  | [] => .ok true
  | entry :: entries => do
    if ← isVisibleEntry entry then areVisible entries else return false

/-- The address that a value spells. Only texts spell one, but the characters of other sequences
are looked at first. -/
def parse (address label : Json) : Except (Raised AddressError) BoundAddress := do
  match address with
  | .text s => ofText s label
  | other =>
    if ← Fault.lift (do areVisible (← other.entries)) then
      throw (.fault (.noLowerCase other.kind))
    throw (.refused (.malformed (← Fault.lift other.quoted)))

end BoundAddress

inductive EventData where
  | bytes (expected : Bytes)
  | address (bound : BoundAddress)
  deriving DecidableEq, Repr

end IdentityProof

import IdentityProof.Json.Text
import IdentityProof.Number.Decimal
import IdentityProof.Registry.Client
import IdentityProof.Root.Verifier
import IdentityProof.Text.Capital
import IdentityProof.Text.Sigma

/-!
Configurations of root verifiers, read from a JSON object or from an environment. A disabled one
needs no other setting; every other one needs an endpoint.
-/

namespace IdentityProof

structure RemoteSettings where
  kind : RemoteKind
  url : String
  contract : String
  /-- Both times are in seconds. -/
  timeout : Binary64
  lifetime : Binary64
  fromBlock : Int
  view : String
  deriving DecidableEq, Repr

inductive RootConfig where
  | disabled
  | remote (settings : RemoteSettings)
  deriving DecidableEq, Repr

inductive ConfigError where
  | unknownKind (shown : String)
  | urlRequired
  | badBlock (shown : String)
  | badDuration (field shown : String)
  | registry (e : RegistryError)
  deriving DecidableEq, Repr

def ConfigError.message : ConfigError → String
  | .unknownKind shown => "unsupported verifier type: " ++ shown
  | .urlRequired => "rpc is required"
  | .badBlock shown => "from_block: invalid block " ++ shown
  | .badDuration field shown => field ++ ": invalid duration " ++ shown
  | .registry e => e.message

def RemoteKind.all : List RemoteKind := [.contract, .cached, .events]

def RemoteKind.ofName? (name : String) : Option RemoteKind :=
  RemoteKind.all.find? fun kind => kind.name == name

namespace RemoteSettings

def standardTimeout : Binary64 := .ofInt 5

def standardLifetime : Binary64 := .ofInt 10

def standardView : String := RootView.name .current

def standard : RemoteSettings :=
  { kind := .contract
    url := ""
    contract := ""
    timeout := standardTimeout
    lifetime := standardLifetime
    fromBlock := 0
    view := standardView }

end RemoteSettings

namespace RootConfig

def isDisabled : RootConfig → Bool
  | disabled => true
  | remote _ => false

def kindName : RootConfig → String
  | disabled => "disabled"
  | remote s => s.kind.name

def settings : RootConfig → RemoteSettings
  | disabled => .standard
  | remote s => s

def readKind (value : Json) : Except (Raised ConfigError) (Option RemoteKind) := do
  match value with
  | .text "disabled" => return none
  | value =>
    let named := match value with
      | .text s => RemoteKind.ofName? s
      | _ => none
    match named with
    | some kind => return some kind
    | none => throw (.refused (.unknownKind (← Fault.lift value.quoted)))

def affirmations : List String := ["1", "true", "yes", "on"]

def readFlag (value : Json) : Except Fault Bool := do
  match value with
  | .bool b => return b
  | other =>
    let text := Text.lowercase (Text.strip (← other.shown).toList)
    return affirmations.contains (String.ofList text)

def secondsOf? (text : String) : Option Binary64 :=
  Binary64.read? ((Text.strip text.toList).reverse.dropWhile (· == 's')).reverse

/-- A number of seconds. The standard one stands in for a value that is missing, empty or not
positive. -/
def readSeconds (field : String) (standard : Binary64) (value : Option Json) :
    Except (Raised ConfigError) Binary64 := do
  match value with
  | none | some .null | some (.text "") => return standard
  | some value =>
    match secondsOf? (← Fault.lift value.shown) with
    | some seconds => return if seconds.compare? .zero == some .gt then seconds else standard
    | none => throw (.refused (.badDuration field (← Fault.lift value.quoted)))

/-- The integer that a value of a block number stands for, none for what stands for no integer. A
fraction is cut off. -/
def blockOf? (value : Json) : Except Fault (Option Int) :=
  match value with
  | .number (.int n) => .ok (some n)
  | .number (.float (.infinity _)) => .error .integerFromInfinity
  | .number (.float x) => .ok x.truncate?
  | .bool b => .ok (some (if b then 1 else 0))
  | .text s => .ok (Integer.read .ten s.toList).toOption
  | _ => .ok none

def readBlock (value : Json) : Except (Raised ConfigError) Int := do
  if !value.isGiven then return 0
  match ← Fault.lift (blockOf? value) with
  | some n => return n
  | none => throw (.refused (.badBlock (← Fault.lift value.quoted)))

def firstGiven? (members : List (String × Json)) (keys : List String) : Option Json :=
  (keys.filterMap (Json.lookup members)).find? Json.isGiven

def readSettings (members : List (String × Json)) (kind : RemoteKind) (url : Json) :
    Except (Raised ConfigError) RemoteSettings := do
  let fromBlock ← readBlock ((Json.lookup members "from_block").getD (.int 0))
  let url ← Fault.lift url.shown
  let contract ← Fault.lift ((Json.lookup members "contract").getD (.text "")).shown
  let timeout ← readSeconds "request_timeout" RemoteSettings.standardTimeout
    (Json.lookup members "request_timeout")
  let lifetime ← readSeconds "cache_expiration" RemoteSettings.standardLifetime
    (Json.lookup members "cache_expiration")
  let view ← Fault.lift
    ((firstGiven? members ["root_method"]).getD (.text RemoteSettings.standardView)).shown
  return { kind, url, contract, timeout, lifetime, fromBlock, view }

/-- Reads a configuration. The kind is the one in the object, or the given one. -/
def ofJson (data kind : Json) : Except (Raised ConfigError) RootConfig := do
  let members ← Fault.lift data.membersOf
  match ← readKind ((Json.lookup members "kind").getD kind) with
  | none => return disabled
  | some kind =>
    if ← Fault.lift (readFlag ((Json.lookup members "disabled").getD (.bool false))) then
      return disabled
    match firstGiven? members ["rpc", "rpc_url"] with
    | none => throw (.refused .urlRequired)
    | some url => return remote (← readSettings members kind url)

def environmentKeys : List String := [
  "disabled", "rpc_url", "contract", "request_timeout", "cache_expiration", "from_block",
  "root_method"]

def capitals (s : String) : String :=
  String.ofList (Text.uppercase s.toList)

def ofEnvironment (environment : List (String × String)) (label : String) (kind : Json) :
    Except (Raised ConfigError) RootConfig :=
  let members := environmentKeys.filterMap fun key =>
    (environment.lookup (capitals label ++ "_" ++ capitals key)).map fun value =>
      (key, Json.text value)
  ofJson (.object members) kind

def client (s : RemoteSettings) : Except (Raised ConfigError) Registry :=
  (Registry.make (.text s.url) (.text s.contract) (.text s.view) (.int s.fromBlock)).mapError
    (.map .registry)

def verifier? : RootConfig → Option (RootVerifier Number)
  | disabled => none
  | remote s =>
    some (.start s.kind (some (.float s.timeout)) (some (.float s.lifetime)) Pool.defaultCapacity)

end RootConfig
end IdentityProof

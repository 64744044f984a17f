import IdentityProof.Files
import IdentityProof.Json.Source
import IdentityProof.Json.Text

/-!
Proofs with their public signals. The coordinates of the points and the signals are kept as text,
whatever values a document has for them.
-/

namespace IdentityProof

structure ProofPoints where
  a : List String
  b : List (List String)
  c : List String
  protocol : Json

structure Proof where
  points : Option ProofPoints
  signals : List String

namespace ProofPoints

def isEmpty (p : ProofPoints) : Bool :=
  p.a.isEmpty || p.b.isEmpty || p.c.isEmpty

def toJson (p : ProofPoints) : Json :=
  .object [
    ("pi_a", .array (p.a.map .text)),
    ("pi_b", .array (p.b.map fun row => .array (row.map .text))),
    ("pi_c", .array (p.c.map .text)),
    ("protocol", p.protocol)]

/-- The entries under a key as texts, none at all for a key that is missing or not given. -/
def textsOf (members : List (String × Json)) (key : String) : Except Fault (List Json) :=
  match Json.lookup members key with
  | some value => if value.isGiven then value.entries else .ok []
  | none => .ok []

def ofJson (value : Json) : Except Fault ProofPoints := do
  let members ← value.membersOf
  let a ← (← textsOf members "pi_a").mapM Json.shown
  let b ← (← textsOf members "pi_b").mapM fun row => do (← row.entries).mapM Json.shown
  let c ← (← textsOf members "pi_c").mapM Json.shown
  return { a, b, c, protocol := (Json.lookup members "protocol").getD (.text "groth16") }

end ProofPoints

namespace Proof

def hasPoints (p : Proof) : Bool :=
  p.points.any fun points => !points.isEmpty

def toJson (p : Proof) : Json :=
  .object [
    ("proof", (p.points.map ProofPoints.toJson).getD .null),
    ("pub_signals", .array (p.signals.map .text))]

/-- The list of signals under either of its keys. -/
def signalsOf (members : List (String × Json)) : Except Fault (List Json) :=
  match Json.lookup members "pub_signals" with
  | none | some .null => ProofPoints.textsOf members "publicSignals"
  | some value => value.entries

def ofJson (value : Json) : Except Fault Proof := do
  let members ← value.membersOf
  let points ← match Json.lookup members "proof" with
    | some p => if p.isGiven then some <$> ProofPoints.ofJson p else pure none
    | none => pure none
  let signals ← (← signalsOf members).mapM Json.shown
  return { points, signals }

def ofSource (source : Source) : Except Fault Proof := do
  ofJson (← source.read)

def ofFile (files : Files) (path : String) : Except Fault Proof := do
  let text ← (Text.decodeUtf8 (← files.read path)).mapError .undecodable
  ofSource (.text (String.ofList (Text.unifyLineEnds text)))

end Proof
end IdentityProof

import IdentityProof.Fault

/-!
Where a JSON value comes from: nothing, text, bytes, or a value that is read already.
-/

namespace IdentityProof

inductive Source where
  | nothing
  | text (s : String)
  | bytes (b : Bytes)
  | value (j : Json)

def Source.read : Source → Except Fault Json
  | .nothing => .error (.notJsonText .null)
  | .text s | .value (.text s) => (Json.read s.toList).mapError .json
  | .bytes b => (Json.readBytes b).mapError .json
  | .value other => .error (.notJsonText other.kind)

end IdentityProof

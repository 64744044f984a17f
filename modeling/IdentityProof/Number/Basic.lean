import IdentityProof.Number.Shortest

/-!
Numbers of a JSON document: integers of any size and binary floating-point numbers, compared by
their exact values.
-/

namespace IdentityProof

inductive Number where
  | int (n : Int)
  | float (x : Binary64)
  deriving DecidableEq, Repr, Inhabited

namespace Number

def compare? : Number → Number → Option Ordering
  | .int a, .int b => some (compare a b)
  | .float x, .float y => x.compare? y
  | .int a, .float y =>
    match y.units? with
    | some u => some (compare (a * Binary64.unitsPerOne) u)
    | none => (Binary64.compare? .zero y)
  | .float x, .int b =>
    match x.units? with
    | some u => some (compare u (b * Binary64.unitsPerOne))
    | none => (Binary64.compare? x .zero)

def same (a b : Number) : Bool :=
  a == b || a.compare? b == some .eq

def toBinary64 : Number → Binary64
  | .int n => .ofInt n
  | .float x => x

protected def add : Number → Number → Number
  | .int a, .int b => .int (a + b)
  | a, b => .float (a.toBinary64.add b.toBinary64)

protected def sub : Number → Number → Number
  | .int a, .int b => .int (a - b)
  | a, b => .float (a.toBinary64.sub b.toBinary64)

instance : Add Number := ⟨Number.add⟩
instance : Sub Number := ⟨Number.sub⟩
instance : LT Number := ⟨fun a b => a.compare? b = some .lt⟩

instance (a b : Number) : Decidable (a < b) :=
  inferInstanceAs (Decidable (a.compare? b = some .lt))

instance : OfNat Number n := ⟨.int n⟩

def text : Number → String
  | .int n => toString n
  | .float x => x.text

/-- A positive number as it is, the standard one in place of any other or of none. -/
def positiveOr (standard : Number) (given : Option Number) : Number :=
  match given with
  | some n => if 0 < n then n else standard
  | none => standard

def isNonzero (a : Number) : Bool :=
  a.compare? 0 != some .eq

end Number
end IdentityProof

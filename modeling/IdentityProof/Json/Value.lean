import IdentityProof.Number.Basic

/-!
JSON values. An object keeps its members in the order of the document.
-/

namespace IdentityProof

inductive Json where
  | null
  | bool (b : Bool)
  | number (n : Number)
  | text (s : String)
  | array (items : List Json)
  | object (members : List (String × Json))
  deriving Repr, Inhabited

namespace Json

inductive Kind where
  | null
  | bool
  | int
  | float
  | text
  | array
  | object
  deriving DecidableEq, Repr

def Kind.name : Kind → String
  | .null => "NoneType"
  | .bool => "bool"
  | .int => "int"
  | .float => "float"
  | .text => "str"
  | .array => "list"
  | .object => "dict"

def kind : Json → Kind
  | .null => .null
  | .bool _ => .bool
  | .number (.int _) => .int
  | .number (.float _) => .float
  | .text _ => .text
  | .array _ => .array
  | .object _ => .object

def int (n : Int) : Json := .number (.int n)

def lookup (members : List (String × Json)) (key : String) : Option Json :=
  (members.find? fun m => m.1 == key).map (·.2)

def member? (value : Json) (key : String) : Option Json :=
  match value with
  | .object members => lookup members key
  | _ => none

/-- The members with one more. A key that is there already keeps its place and takes the new
value. -/
def insert (key : String) (value : Json) : List (String × Json) → List (String × Json)
  | [] => [(key, value)]
  | (k, v) :: rest => if k == key then (key, value) :: rest else (k, v) :: insert key value rest

def isGiven : Json → Bool
  | .null => false
  | .bool b => b
  | .number n => n.isNonzero
  | .text s => s != ""
  | .array items => !items.isEmpty
  | .object members => !members.isEmpty

def toNumber? : Json → Option Number
  | .bool b => some (if b then 1 else 0)
  | .number n => some n
  | _ => none

mutual

/-- Equality by value: numbers and truth values by size, objects without regard to order. -/
def same : Json → Json → Bool
  | .null, .null => true
  | .text a, .text b => a == b
  | .array as, .array bs => sameItems as bs
  | .object as, .object bs => as.length == bs.length && sameMembers as bs
  | a, b =>
    match a.toNumber?, b.toNumber? with
    | some m, some n => m.same n
    | _, _ => false

def sameItems : List Json → List Json → Bool
  | [], [] => true
  | a :: as, b :: bs => same a b && sameItems as bs
  | _, _ => false

def sameMembers : List (String × Json) → List (String × Json) → Bool
  | [], _ => true
  | (k, a) :: as, bs =>
    (match lookup bs k with
    | some b => same a b
    | none => false) && sameMembers as bs

end

end Json
end IdentityProof

import IdentityProof.Rule.Basic

/-!
Outcomes of checks and the failures they leave under the names of fields. A check is skipped when
the option behind it is not set. Two checks in alternative fail only when all that ran have failed.
-/

namespace IdentityProof

inductive Outcome (ε : Type) where
  | pass
  | skipped
  | failed (e : ε)
  deriving DecidableEq, Repr

def Outcome.ofCheck (check : Except (Raised ε) Unit) : Except Fault (Outcome ε) :=
  match check with
  | .ok () => .ok .pass
  | .error (.refused e) => .ok (.failed e)
  | .error (.fault f) => .error f

def Rule.checkAll (rules : List Rule) (value : Json) : Except Fault (Outcome RuleError) :=
  Outcome.ofCheck (rules.forM fun rule => rule.check value)

/-- The option holds the value that switches it off: nothing, false, minus one, or an empty text
or array. -/
def Json.isUnset : Json → Bool
  | .null => true
  | .bool b => !b
  | .number (.int n) => n == -1
  | .number (.float _) => false
  | .text s => s == ""
  | .array items => items.isEmpty
  | .object _ => false

def Rule.checkIfSet (isUnset : Bool) (rules : List Rule) (value : Json) :
    Except Fault (Outcome RuleError) :=
  if isUnset then .ok .skipped else Rule.checkAll (.required :: rules) value

abbrev Failures (ε : Type) := List (String × ε)

namespace Failures

def insert (field : String) (e : α) : List (String × α) → List (String × α)
  | [] => [(field, e)]
  | (f, old) :: rest => if f == field then (field, e) :: rest else (f, old) :: insert field e rest

def union (first second : Failures ε) : Failures ε :=
  second.foldl (fun all (field, e) => insert field e all) first

def sorted (failures : Failures ε) : Failures ε :=
  failures.mergeSort fun a b => a.1 ≤ b.1

def get? (failures : Failures ε) (field : String) : Option ε :=
  failures.lookup field

def filtered (entries : List (String × Option ε)) : Failures ε :=
  entries.filterMap fun (field, e) => e.map (field, ·)

def message (show_ : ε → String) (failures : Failures ε) : String :=
  match failures.sorted.map fun (field, e) => field ++ ": " ++ show_ e with
  | [] => ""
  | parts => "; ".intercalate parts ++ "."

def ofOutcomes (outcomes : List (String × Outcome ε)) : Failures ε :=
  outcomes.filterMap fun (field, outcome) =>
    match outcome with
    | .failed e => some (field, e)
    | _ => none

/-- The failures of two checks in alternative, each under its own field: none if no check ran or
one of them passed. -/
def ofEither (first second : String × Outcome ε) : Failures ε :=
  let ran := [first, second].foldl (fun all (field, outcome) =>
    match outcome with
    | .skipped => all
    | .pass => insert field none all
    | .failed e => insert field (some e) all) []
  if ran.any fun (_, e) => e.isNone then [] else filtered ran

end Failures
end IdentityProof

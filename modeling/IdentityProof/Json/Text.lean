import IdentityProof.Fault

/-!
The text of a JSON value in messages, the order of two values, and access to the parts of a value
of unknown kind. All of them can fail: a very long integer has no text, values of different kinds
have no order, and not every value has parts.
-/

namespace IdentityProof.Json

def integerText (n : Int) : Except Fault String :=
  match Integer.text? n with
  | some s => .ok s
  | none => .error .integerTooLong

mutual

def quoted : Json → Except Fault String
  | .null => .ok "None"
  | .bool b => .ok (if b then "True" else "False")
  | .number (.int n) => integerText n
  | .number (.float x) => .ok x.text
  | .text s => .ok (Text.quoted s)
  | .array items => do
    let shown ← quotedItems items
    return "[" ++ ", ".intercalate shown ++ "]"
  | .object members => do
    let shown ← quotedMembers members
    return "\x7b" ++ ", ".intercalate shown ++ "\x7d"

def quotedItems : List Json → Except Fault (List String)
  | [] => .ok []
  | item :: items => do
    let shown ← quoted item
    let rest ← quotedItems items
    return shown :: rest

def quotedMembers : List (String × Json) → Except Fault (List String)
  | [] => .ok []
  | (key, value) :: members => do
    let shown ← quoted value
    let rest ← quotedMembers members
    return (Text.quoted key ++ ": " ++ shown) :: rest

end

def shown : Json → Except Fault String
  | .text s => .ok s
  | value => value.quoted

mutual

def greater : Json → Json → Except Fault Bool
  | .text a, .text b => .ok (b < a)
  | .array as, .array bs => greaterItems as bs
  | a, b =>
    match a.toNumber?, b.toNumber? with
    | some m, some n => .ok (m.compare? n == some .gt)
    | _, _ => .error (.unordered ">" a.kind b.kind)

def greaterItems : List Json → List Json → Except Fault Bool
  | [], _ => .ok false
  | _ :: _, [] => .ok true
  | a :: as, b :: bs => if same a b then greaterItems as bs else greater a b

end

def toInteger (value : Json) : Except Fault Int :=
  match value with
  | .number (.int n) => .ok n
  | .bool b => .ok (if b then 1 else 0)
  | other => .error (.notInteger other.kind)

def key (value : Json) (name : String) : Except Fault Json :=
  match value with
  | .object members =>
    match lookup members name with
    | some v => .ok v
    | none => .error (.missingKey name)
  | .array _ => .error .keyForArray
  | .text _ => .error .keyForText
  | other => .error (.notSubscriptable other.kind)

/-- The entry of a value that should be an array. A text gives a text of one character. -/
def entry (value : Json) (index : Nat) : Except Fault Json :=
  match value with
  | .array items =>
    match items[index]? with
    | some v => .ok v
    | none => .error (.indexOutOfRange .array)
  | .text s =>
    match s.toList[index]? with
    | some c => .ok (.text (String.ofList [c]))
    | none => .error (.indexOutOfRange .text)
  | .object _ => .error (.missingIndexKey index)
  | other => .error (.notSubscriptable other.kind)

def entries (value : Json) : Except Fault (List Json) :=
  match value with
  | .array items => .ok items
  | .text s => .ok (s.toList.map fun c => .text (String.ofList [c]))
  | .object members => .ok (members.map fun m => .text m.1)
  | other => .error (.notIterable other.kind)

def membersOf (value : Json) : Except Fault (List (String × Json)) :=
  match value with
  | .object members => .ok members
  | other => .error (.notMapping other.kind)

end IdentityProof.Json

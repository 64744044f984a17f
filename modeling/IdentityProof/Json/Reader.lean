import IdentityProof.Json.Value
import IdentityProof.Number.Decimal
import IdentityProof.Text.Encoding

/-!
The reader of JSON text. Beside the standard it takes `NaN`, `Infinity` and `-Infinity`; of equal
keys the last value stays. A fault tells what was expected and where.
-/

namespace IdentityProof.Json

inductive Expected where
  | value
  | propertyName
  | colon
  | comma
  | closingQuote
  | printable
  | escape
  | unicodeEscape
  | endOfText
  | noByteOrderMark
  deriving DecidableEq, Repr

def Expected.message : Expected → String
  | .value => "Expecting value"
  | .propertyName => "Expecting property name enclosed in double quotes"
  | .colon => "Expecting ':' delimiter"
  | .comma => "Expecting ',' delimiter"
  | .closingQuote => "Unterminated string starting at"
  | .printable => "Invalid control character at"
  | .escape => "Invalid \\escape"
  | .unicodeEscape => "Invalid \\uXXXX escape"
  | .endOfText => "Extra data"
  | .noByteOrderMark => "Unexpected UTF-8 BOM (decode using utf-8-sig)"

inductive Stop where
  | expected (what : Expected) (left : Nat)
  | integer (e : Integer.ReadError)
  | tooDeep (container : Kind)
  deriving Repr

structure SyntaxError where
  what : Expected
  line : Nat
  column : Nat
  position : Nat
  deriving DecidableEq, Repr

def SyntaxError.message (e : SyntaxError) : String :=
  e.what.message ++ ": line " ++ toString e.line ++ " column " ++ toString e.column ++
    " (char " ++ toString e.position ++ ")"

def SyntaxError.at (text : List Char) (what : Expected) (position : Nat) : SyntaxError :=
  let before := text.take position
  { what
    line := before.count '\n' + 1
    column := (before.reverse.takeWhile (· != '\n')).length + 1
    position }

abbrev Parsed (α : Type) := α × List Char

def stopAt (what : Expected) (rest : List Char) : Except Stop α :=
  .error (.expected what rest.length)

def skipBlanks (cs : List Char) : List Char :=
  cs.dropWhile fun c => c == ' ' || c == '\t' || c == '\n' || c == '\r'

def hexUnit (u : List Char) : Except Stop (Parsed Nat) :=
  match u.drop 1 with
  | a :: b :: c :: d :: rest =>
    if rest.isEmpty then stopAt .unicodeEscape u
    else
      match [a, b, c, d].mapM Text.hexDigit? with
      | some ds => .ok (ds.foldl (fun n d => n * 16 + d) 0, rest)
      | none => stopAt .unicodeEscape u
  | _ => stopAt .unicodeEscape u

def unicodeEscape (u : List Char) : Except Stop (Parsed Char) := do
  let (n, rest) ← hexUnit u
  let alone := if 0xd800 ≤ n && n < 0xe000 then Text.replacement else Char.ofNat n
  match rest with
  | '\\' :: 'u' :: more =>
    if 0xd800 ≤ n && n < 0xdc00 && 6 < rest.length then
      let (m, after) ← hexUnit ('u' :: more)
      if 0xdc00 ≤ m && m < 0xe000 then
        return (Char.ofNat (0x10000 + (n - 0xd800) * 1024 + (m - 0xdc00)), after)
      else return (alone, rest)
    else return (alone, rest)
  | _ => return (alone, rest)

def simpleEscape? : Char → Option Char
  | '"' => some '"'
  | '\\' => some '\\'
  | '/' => some '/'
  | 'b' => some '\x08'
  | 'f' => some '\x0c'
  | 'n' => some '\n'
  | 'r' => some '\r'
  | 't' => some '\t'
  | _ => none

/-- One character of a text, or none at its closing quote. What is left behind the opening quote
is `start`. -/
def textPiece (start cs : List Char) : Except Stop (Parsed (Option Char)) :=
  match cs with
  | [] => .error (.expected .closingQuote (start.length + 1))
  | '"' :: rest => .ok (none, rest)
  | '\\' :: rest =>
    match rest with
    | [] => .error (.expected .closingQuote (start.length + 1))
    | 'u' :: _ => (unicodeEscape rest).map fun (c, after) => (some c, after)
    | e :: after =>
      match simpleEscape? e with
      | some c => .ok (some c, after)
      | none => stopAt .escape cs
  | c :: rest => if c.toNat < 0x20 then stopAt .printable cs else .ok (some c, rest)

def textFrom (start : List Char) : Nat → List Char → List Char → Except Stop (Parsed (List Char))
  | 0, _, _ => .error (.expected .closingQuote (start.length + 1))
  | fuel + 1, cs, found => do
    let (piece, rest) ← textPiece start cs
    match piece with
    | none => return (found.reverse, rest)
    | some c => textFrom start fuel rest (c :: found)

def takeText (fuel : Nat) (cs : List Char) : Except Stop (Parsed String) := do
  let (found, rest) ← textFrom cs fuel cs []
  return (String.ofList found, rest)

def depthLimit : Nat := 988

def takeFraction : List Char → Option (List Char) × List Char
  | '.' :: d :: rest =>
    if Binary64.isDigit d then
      (some (d :: rest.takeWhile Binary64.isDigit), rest.dropWhile Binary64.isDigit)
    else (none, '.' :: d :: rest)
  | cs => (none, cs)

def takeExponent : List Char → Option Int × List Char
  | e :: rest =>
    let (negative, body) := Integer.splitSign rest
    let digits := body.takeWhile Binary64.isDigit
    if (e == 'e' || e == 'E') && !digits.isEmpty then
      let n : Int := Integer.valueOf .ten digits
      (some (if negative then -n else n), body.dropWhile Binary64.isDigit)
    else (none, e :: rest)
  | [] => (none, [])

def takeNumber (cs : List Char) : Except Stop (Parsed Json) :=
  let (negative, body) := match cs with
    | '-' :: rest => (true, rest)
    | _ => (false, cs)
  let whole := match body with
    | '0' :: _ => ['0']
    | _ => body.takeWhile Binary64.isDigit
  if whole.isEmpty then stopAt .value cs
  else
    let (fraction, rest) := takeFraction (body.drop whole.length)
    let (exponent, rest) := takeExponent rest
    if fraction.isNone && exponent.isNone then
      if Integer.digitLimit < whole.length then .error (.integer (.tooLong whole.length))
      else
        let n : Int := Integer.valueOf .ten whole
        .ok (.int (if negative then -n else n), rest)
    else
      let parts : Binary64.Parts :=
        { whole, fraction := fraction.getD [], exponent := exponent.getD 0 }
      .ok (.number (.float (parts.toBinary64 negative)), rest)

def words : List (List Char × Json) := [
  ("null".toList, .null),
  ("true".toList, .bool true),
  ("false".toList, .bool false),
  ("NaN".toList, .number (.float .nan)),
  ("Infinity".toList, .number (.float (.infinity false))),
  ("-Infinity".toList, .number (.float (.infinity true)))]

def word? (cs : List Char) : Option (Json × List Char) :=
  (words.find? fun w => w.1.isPrefixOf cs).map fun w => (w.2, cs.drop w.1.length)

mutual

/-- A value inside of `depth` containers. -/
def takeValue (depth : Nat) : Nat → List Char → Except Stop (Parsed Json)
  | 0, cs => stopAt .value cs
  | fuel + 1, cs =>
    match cs with
    | [] => stopAt .value cs
    | '"' :: rest => (takeText fuel rest).map fun (s, after) => (.text s, after)
    | '[' :: rest =>
      if depthLimit ≤ depth then .error (.tooDeep .array)
      else
        match skipBlanks rest with
        | ']' :: after => .ok (.array [], after)
        | items => arrayFrom (depth + 1) fuel items []
    | '{' :: rest =>
      if depthLimit ≤ depth then .error (.tooDeep .object)
      else
        match skipBlanks rest with
        | '}' :: after => .ok (.object [], after)
        | members => objectFrom (depth + 1) fuel members []
    | _ =>
      match word? cs with
      | some found => .ok found
      | none => takeNumber cs

def arrayFrom (depth : Nat) : Nat → List Char → List Json → Except Stop (Parsed Json)
  | 0, cs, _ => stopAt .value cs
  | fuel + 1, cs, items => do
    let (item, rest) ← takeValue depth fuel cs
    match skipBlanks rest with
    | ']' :: after => return (.array (item :: items).reverse, after)
    | ',' :: after => arrayFrom depth fuel (skipBlanks after) (item :: items)
    | other => stopAt .comma other

def objectFrom (depth : Nat) :
    Nat → List Char → List (String × Json) → Except Stop (Parsed Json)
  | 0, cs, _ => stopAt .value cs
  | fuel + 1, cs, members =>
    match cs with
    | '"' :: rest => do
      let (key, rest) ← takeText fuel rest
      match skipBlanks rest with
      | ':' :: rest =>
        let (member, rest) ← takeValue depth fuel (skipBlanks rest)
        let members := insert key member members
        match skipBlanks rest with
        | '}' :: after => return (.object members, after)
        | ',' :: after => objectFrom depth fuel (skipBlanks after) members
        | other => stopAt .comma other
      | other => stopAt .colon other
    | other => stopAt .propertyName other

end

inductive ReadError where
  | malformed (e : SyntaxError)
  | integer (e : Integer.ReadError)
  | tooDeep (container : Kind)
  | undecodable (e : Text.DecodeError)
  deriving DecidableEq, Repr

def containerName : Kind → String
  | .object => "object"
  | _ => "array"

def ReadError.message : ReadError → String
  | .malformed e => e.message
  | .integer e => e.message
  | .tooDeep container =>
    "maximum recursion depth exceeded while decoding a JSON " ++ containerName container ++
      " from a unicode string"
  | .undecodable e => e.message

/-- Reads a whole text as one value. A nested value takes two steps for each of its characters at
most. -/
def read (text : List Char) : Except ReadError Json :=
  let fail (what : Expected) (left : Nat) :=
    .error (.malformed (.at text what (text.length - left)))
  if text.head? == some (Char.ofNat 0xfeff) then fail .noByteOrderMark text.length
  else
    match takeValue 0 (2 * text.length + 2) (skipBlanks text) with
    | .error (.expected what left) => fail what left
    | .error (.integer e) => .error (.integer e)
    | .error (.tooDeep container) => .error (.tooDeep container)
    | .ok (json, rest) =>
      match skipBlanks rest with
      | [] => .ok json
      | extra => fail .endOfText extra.length

def readBytes (bytes : Bytes) : Except ReadError Json := do
  let text ← (Text.decodeJsonBytes bytes).mapError .undecodable
  read text

end IdentityProof.Json

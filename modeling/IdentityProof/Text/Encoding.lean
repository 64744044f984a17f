import IdentityProof.Text.Quoted

/-!
Bytes as text: UTF-8, UTF-16 and UTF-32 with the place of the first fault, the encoding of a JSON
document, Latin-1 in both directions, and hexadecimal. A half of a surrogate pair that stands
alone has no character here and becomes the replacement character.
-/

namespace IdentityProof.Text

inductive Malformed where
  | invalidStart
  | invalidContinuation
  | unexpectedEnd
  | truncated
  | outOfRange
  deriving DecidableEq, Repr

def Malformed.message : Malformed → String
  | .invalidStart => "invalid start byte"
  | .invalidContinuation => "invalid continuation byte"
  | .unexpectedEnd => "unexpected end of data"
  | .truncated => "truncated data"
  | .outOfRange => "code point not in range(0x110000)"

structure DecodeError where
  encoding : String
  first : Nat
  last : Nat
  byte : UInt8
  reason : Malformed
  deriving DecidableEq, Repr

def DecodeError.message (e : DecodeError) : String :=
  let place :=
    if e.first = e.last then
      "byte 0x" ++ String.ofList (hexDigits 2 e.byte.toNat) ++ " in position " ++ toString e.first
    else "bytes in position " ++ toString e.first ++ "-" ++ toString e.last
  "'" ++ e.encoding ++ "' codec can't decode " ++ place ++ ": " ++ e.reason.message

abbrev Step := Bytes → Except (Malformed × Nat) (Char × Nat)

def replacement : Char := Char.ofNat 0xfffd

def isContinuation (b : UInt8) : Bool :=
  b &&& 0xc0 == 0x80

def utf8Step (lenient : Bool) : Step
  | [] => .error (.unexpectedEnd, 0)
  | b0 :: rest =>
    if b0 < 0x80 then .ok (Char.ofNat b0.toNat, 1)
    else if b0 < 0xc2 then .error (.invalidStart, 1)
    else if b0 < 0xe0 then
      match rest with
      | [] => .error (.unexpectedEnd, 1)
      | b1 :: _ =>
        if isContinuation b1 then
          .ok (Char.ofNat ((b0.toNat - 0xc0) * 64 + (b1.toNat - 0x80)), 2)
        else .error (.invalidContinuation, 1)
    else if b0 < 0xf0 then
      match rest with
      | [] => .error (.unexpectedEnd, 1)
      | b1 :: rest =>
        let half := b0 == 0xed && 0xa0 ≤ b1
        let second := isContinuation b1 && !(b0 == 0xe0 && b1 < 0xa0) && (lenient || !half)
        match rest with
        | [] =>
          if isContinuation b1 && !(b0 == 0xe0 && b1 < 0xa0) && !half then
            .error (.unexpectedEnd, 2)
          else .error (.invalidContinuation, 1)
        | b2 :: _ =>
          if !second then .error (.invalidContinuation, 1)
          else if !isContinuation b2 then .error (.invalidContinuation, if half then 1 else 2)
          else if half then .ok (replacement, 3)
          else .ok (Char.ofNat
            ((b0.toNat - 0xe0) * 4096 + (b1.toNat - 0x80) * 64 + (b2.toNat - 0x80)), 3)
    else if b0 < 0xf5 then
      match rest with
      | [] => .error (.unexpectedEnd, 1)
      | b1 :: rest =>
        if !isContinuation b1 || (b0 == 0xf0 && b1 < 0x90) || (b0 == 0xf4 && 0x90 ≤ b1) then
          .error (.invalidContinuation, 1)
        else
          match rest with
          | [] => .error (.unexpectedEnd, 2)
          | b2 :: rest =>
            if !isContinuation b2 then .error (.invalidContinuation, 2)
            else
              match rest with
              | [] => .error (.unexpectedEnd, 3)
              | b3 :: _ =>
                if !isContinuation b3 then .error (.invalidContinuation, 3)
                else .ok (Char.ofNat ((b0.toNat - 0xf0) * 262144 + (b1.toNat - 0x80) * 4096 +
                  (b2.toNat - 0x80) * 64 + (b3.toNat - 0x80)), 4)
    else .error (.invalidStart, 1)

def unitOf (high : Bool) (bytes : Bytes) : Nat :=
  (if high then bytes else bytes.reverse).foldl (fun n b => n * 256 + b.toNat) 0

def utf16Step (high : Bool) : Step
  | b0 :: b1 :: rest =>
    let u := unitOf high [b0, b1]
    if u < 0xd800 || 0xe000 ≤ u then .ok (Char.ofNat u, 2)
    else
      match rest with
      | b2 :: b3 :: _ =>
        let v := unitOf high [b2, b3]
        if u < 0xdc00 && 0xdc00 ≤ v && v < 0xe000 then
          .ok (Char.ofNat (0x10000 + (u - 0xd800) * 1024 + (v - 0xdc00)), 4)
        else .ok (replacement, 2)
      | _ => .ok (replacement, 2)
  | short => .error (.truncated, short.length)

def utf32Step (high : Bool) : Step
  | b0 :: b1 :: b2 :: b3 :: _ =>
    let n := unitOf high [b0, b1, b2, b3]
    if 0x110000 ≤ n then .error (.outOfRange, 4)
    else .ok (if 0xd800 ≤ n && n < 0xe000 then replacement else Char.ofNat n, 4)
  | short => .error (.truncated, short.length)

def decodeFrom (encoding : String) (step : Step) :
    Nat → Nat → Bytes → Except DecodeError (List Char)
  | _, _, [] => .ok []
  | 0, _, _ :: _ => .ok []
  | fuel + 1, position, b :: bs =>
    match step (b :: bs) with
    | .error (reason, width) => .error
        { encoding, first := position, last := position + width - 1, byte := b, reason }
    | .ok (c, width) => do
      let cs ← decodeFrom encoding step fuel (position + width) ((b :: bs).drop width)
      return c :: cs

def decodeUtf8 (bytes : Bytes) : Except DecodeError (List Char) :=
  decodeFrom "utf-8" (utf8Step false) bytes.length 0 bytes

/-- The text of a JSON document. A byte order mark tells the encoding, or else the places of the
zeros among the first four bytes do. -/
def decodeJsonBytes (bytes : Bytes) : Except DecodeError (List Char) :=
  let run (encoding : String) (step : Step) (skip : Nat) :=
    decodeFrom encoding step bytes.length skip (bytes.drop skip)
  match bytes with
  | 0 :: 0 :: 0xfe :: 0xff :: _ => run "utf-32-be" (utf32Step true) 4
  | 0xff :: 0xfe :: 0 :: 0 :: _ => run "utf-32-le" (utf32Step false) 4
  | 0xfe :: 0xff :: _ => run "utf-16-be" (utf16Step true) 2
  | 0xff :: 0xfe :: _ => run "utf-16-le" (utf16Step false) 2
  | 0xef :: 0xbb :: 0xbf :: rest => decodeFrom "utf-8" (utf8Step true) rest.length 0 rest
  | b0 :: b1 :: b2 :: b3 :: _ =>
    if b0 == 0 then
      if b1 == 0 then run "utf-32-be" (utf32Step true) 0 else run "utf-16-be" (utf16Step true) 0
    else if b1 == 0 then
      if b2 == 0 && b3 == 0 then run "utf-32-le" (utf32Step false) 0
      else run "utf-16-le" (utf16Step false) 0
    else run "utf-8" (utf8Step true) 0
  | [b0, b1] =>
    if b0 == 0 then run "utf-16-be" (utf16Step true) 0
    else if b1 == 0 then run "utf-16-le" (utf16Step false) 0
    else run "utf-8" (utf8Step true) 0
  | _ => run "utf-8" (utf8Step true) 0

def unifyLineEnds : List Char → List Char
  | '\r' :: '\n' :: cs => '\n' :: unifyLineEnds cs
  | '\r' :: cs => '\n' :: unifyLineEnds cs
  | c :: cs => c :: unifyLineEnds cs
  | [] => []

def latin1 (bytes : Bytes) : List Char :=
  bytes.map fun b => Char.ofNat b.toNat

structure EncodeError where
  char : Char
  first : Nat
  last : Nat
  deriving DecidableEq, Repr

def EncodeError.message (e : EncodeError) : String :=
  let place :=
    if e.first = e.last then
      "character '" ++ String.ofList (numberEscape e.char.toNat) ++ "' in position " ++
        toString e.first
    else "characters in position " ++ toString e.first ++ "-" ++ toString e.last
  "'latin-1' codec can't encode " ++ place ++ ": ordinal not in range(256)"

def encodeLatin1 (cs : List Char) : Except EncodeError Bytes :=
  let fits (c : Char) := c.toNat < 256
  match cs.dropWhile fits with
  | [] => .ok (cs.map fun c => UInt8.ofNat c.toNat)
  | c :: rest =>
    let first := cs.length - (rest.length + 1)
    let run := (rest.takeWhile fun c => !fits c).length
    .error { char := c, first, last := first + run }

def hex (bytes : Bytes) : String :=
  String.ofList (bytes.flatMap fun b => hexDigits 2 b.toNat)

def bytesOfHexChars : List Char → Option Bytes
  | [] => some []
  | a :: b :: cs => do
    let x ← hexDigit? a
    let y ← hexDigit? b
    let rest ← bytesOfHexChars cs
    return UInt8.ofNat (x * 16 + y) :: rest
  | [_] => none

def bytesOfHex? (s : String) : Option Bytes :=
  bytesOfHexChars s.toList

end IdentityProof.Text

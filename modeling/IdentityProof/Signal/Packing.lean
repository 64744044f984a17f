import IdentityProof.Json.Text

/-!
Signals as decimal text. Bytes and Latin-1 text are packed into the size of a big-endian integer,
so leading zero bytes are lost unless the width is known.
-/

namespace IdentityProof

def isDecimalDigit (c : Char) : Bool :=
  '0' ≤ c && c ≤ '9'

def decimalDigits? (cs : List Char) : Option (List Char) :=
  let digits := cs.takeWhile isDecimalDigit
  let rest := cs.dropWhile isDecimalDigit
  if digits.isEmpty || !(rest.isEmpty || rest == ['\n']) then none else some digits

/-- The number that a text spells, none when it is no decimal. More digits than the limit are a
fault. -/
def parseDecimal (s : String) : Except Fault (Option Nat) :=
  match decimalDigits? s.toList with
  | none => .ok none
  | some digits =>
    if Integer.digitLimit < digits.length then .error (.integer (.tooLong digits.length))
    else .ok (some (Integer.valueOf .ten digits))

def decimalText (n : Nat) : Except Fault String :=
  Json.integerText n

namespace Bytes

def ofNatOnto : Nat → Nat → Bytes → Bytes
  | 0, _, rest => rest
  | width + 1, n, rest => ofNatOnto width (n / 256) (UInt8.ofNat n :: rest)

def ofNat (width n : Nat) : Bytes :=
  ofNatOnto width n []

def lengthLimit : Nat := 0x7fffffffffffffde

/-- The longest run of bytes for which there is room. -/
def roomLimit : Nat := 0x10000000000

def hasRoom (length : Int) : Except Fault Unit :=
  if lengthLimit < length then .error .bytesTooLong
  else if roomLimit < length then .error .outOfMemory
  else .ok ()

def widthOf (n : Nat) : Nat :=
  if n = 0 then 0 else n.log2 / 8 + 1

def ofNatMinimal (n : Nat) : Bytes :=
  ofNat (widthOf n) n

def toNat (bytes : Bytes) : Nat :=
  bytes.foldl (fun n b => n * 256 + b.toNat) 0

end Bytes

namespace Packing

def unpack (signal : String) : Except Fault Bytes := do
  match ← parseDecimal signal with
  | none => return []
  | some n => return Bytes.ofNatMinimal n

/-- The bytes of a signal in a known width, none at all when they do not fit or cannot be
addressed. -/
def unpackSized (signal : String) (size : Json) : Except Fault Bytes := do
  match ← parseDecimal signal with
  | none => return []
  | some n =>
    let size ← size.toInteger
    if !Integer.fitsWord 0x8000000000000000 size then return []
    else if size < 0 then throw .negativeLength
    else if size.toNat < Bytes.widthOf n then return []
    else
      match Bytes.hasRoom size with
      | .error .bytesTooLong => return []
      | .error f => throw f
      | .ok () => return Bytes.ofNat size.toNat n

def pack (bytes : Bytes) : Except Fault String :=
  decimalText (Bytes.toNat bytes)

def unpackText (signal : String) : Except Fault String := do
  return String.ofList (Text.latin1 (← unpack signal))

def packText (text : String) : Except Fault String := do
  pack (← (Text.encodeLatin1 text.toList).mapError .unencodable)

end Packing
end IdentityProof

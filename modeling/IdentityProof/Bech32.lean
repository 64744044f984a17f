/-!
Bech32: text with a human-readable label, a separator, five-bit words and a checksum of six words
over both.
-/

namespace IdentityProof.Bech32

def alphabet : List Char := "qpzry9x8gf2tvdw0s3jn54khce6mua7l".toList

def polymodStep (checksum value : Nat) : Nat :=
  let top := checksum >>> 25
  let shifted := ((checksum &&& 0x1ffffff) <<< 5) ^^^ value
  [0x3b6a57b2, 0x26508e6d, 0x1ea119fa, 0x3d4233dd, 0x2a1462b3].zipIdx.foldl
    (fun c (generator, i) => if top.testBit i then c ^^^ generator else c) shifted

def polymod (values : List Nat) : Nat :=
  values.foldl polymodStep 1

def expandLabel (label : List Char) : List Nat :=
  label.map (fun c => c.toNat >>> 5) ++ 0 :: label.map fun c => c.toNat &&& 31

def isChecked (label : List Char) (words : List Nat) : Bool :=
  polymod (expandLabel label ++ words) == 1

def checksum (label : List Char) (words : List Nat) : List Nat :=
  let sum := polymod (expandLabel label ++ words ++ [0, 0, 0, 0, 0, 0]) ^^^ 1
  (List.range 6).map fun i => (sum >>> (5 * (5 - i))) &&& 31

def encode (label : List Char) (words : List Nat) : List Char :=
  label ++ '1' :: (words ++ checksum label words).map fun w => alphabet.getD w 'q'

def splitLabel? (cs : List Char) : Option (List Char × List Char) :=
  let tail := (cs.reverse.takeWhile (· != '1')).reverse
  if tail.length < cs.length then some (cs.take (cs.length - tail.length - 1), tail) else none

def word? (c : Char) : Option Nat :=
  if alphabet.contains c then some (alphabet.idxOf c) else none

def isVisible (c : Char) : Bool :=
  33 ≤ c.toNat && c.toNat ≤ 126

def labelLimit : Nat := 83

def decode? (address : List Char) : Option (List Char × List Nat) := do
  let visible := address.all isVisible
  let small := address.map Char.toLower
  if !visible || (small != address && address.map Char.toUpper != address) then none
  else
    let (label, rest) ← splitLabel? small
    if label.isEmpty || labelLimit < label.length || rest.length < 6 then none
    else
      let words ← rest.mapM word?
      if isChecked label words then return (label, words.take (words.length - 6)) else none

/-- Takes words of five bits to bytes. `bits` of the number `pending` are not written yet. -/
def bytesOfWords (pending bits : Nat) : List Nat → List Nat × Nat × Nat
  | [] => ([], pending, bits)
  | w :: words =>
    let pending := pending * 32 + w
    let bits := bits + 5
    if 8 ≤ bits then
      let (bytes, left) := bytesOfWords (pending % Nat.pow 2 (bits - 8)) (bits - 8) words
      (pending / Nat.pow 2 (bits - 8) :: bytes, left)
    else bytesOfWords pending bits words

def toBytes? (words : List Nat) : Option (List UInt8) :=
  let (bytes, pending, bits) := bytesOfWords 0 0 words
  if 5 ≤ bits || pending != 0 then none else some (bytes.map UInt8.ofNat)

def ofBytesFrom (pending bits : Nat) : List UInt8 → List Nat
  | [] => if bits = 0 then [] else [pending * Nat.pow 2 (5 - bits)]
  | b :: bytes =>
    let pending := pending * 256 + b.toNat
    let bits := bits + 8
    let first := pending / Nat.pow 2 (bits - 5)
    let pending := pending % Nat.pow 2 (bits - 5)
    let bits := bits - 5
    if 5 ≤ bits then
      first :: pending / Nat.pow 2 (bits - 5) ::
        ofBytesFrom (pending % Nat.pow 2 (bits - 5)) (bits - 5) bytes
    else first :: ofBytesFrom pending bits bytes

def ofBytes (bytes : List UInt8) : List Nat :=
  ofBytesFrom 0 0 bytes

end IdentityProof.Bech32

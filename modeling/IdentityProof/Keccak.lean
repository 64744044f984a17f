import IdentityProof.Text.Quoted

/-!
The Keccak sponge with a digest of 256 bits: 25 lanes of 64 bits, 24 rounds, and blocks of 136
bytes.
-/

namespace IdentityProof.Keccak

abbrev State := List UInt64

def empty : State := List.replicate 25 0

def lane (s : State) (x y : Nat) : UInt64 :=
  s.getD (x % 5 + 5 * (y % 5)) 0

def ofLanes (f : Nat → Nat → UInt64) : State :=
  (List.range 25).map fun i => f (i % 5) (i / 5)

def rotateLeft (w : UInt64) (n : Nat) : UInt64 :=
  if n = 0 then w else (w <<< UInt64.ofNat n) ||| (w >>> UInt64.ofNat (64 - n))

def rotations : List Nat := [
  0, 1, 62, 28, 27, 36, 44, 6, 55, 20, 3, 10, 43, 25, 39, 41, 45, 15, 21, 8, 18, 2, 61, 56, 14]

def roundConstants : List UInt64 := [
  0x0000000000000001, 0x0000000000008082, 0x800000000000808a, 0x8000000080008000,
  0x000000000000808b, 0x0000000080000001, 0x8000000080008081, 0x8000000000008009,
  0x000000000000008a, 0x0000000000000088, 0x0000000080008009, 0x000000008000000a,
  0x000000008000808b, 0x800000000000008b, 0x8000000000008089, 0x8000000000008003,
  0x8000000000008002, 0x8000000000000080, 0x000000000000800a, 0x800000008000000a,
  0x8000000080008081, 0x8000000000008080, 0x0000000080000001, 0x8000000080008008]

def columnParity (s : State) (x : Nat) : UInt64 :=
  (List.range 5).foldl (fun p y => p ^^^ lane s x y) 0

def mixColumns (s : State) : State :=
  let parities := (List.range 5).map (columnParity s)
  let parity (x : Nat) := parities.getD (x % 5) 0
  ofLanes fun x y => lane s x y ^^^ parity (x + 4) ^^^ rotateLeft (parity (x + 1)) 1

def moveLanes (s : State) : State :=
  ofLanes fun x y =>
    let column := (x + 3 * y) % 5
    rotateLeft (lane s column x) (rotations.getD (column + 5 * x) 0)

def mixRows (s : State) : State :=
  ofLanes fun x y => lane s x y ^^^ (~~~ lane s (x + 1) y &&& lane s (x + 2) y)

def round (s : State) (constant : UInt64) : State :=
  let mixed := mixRows (moveLanes (mixColumns s))
  ofLanes fun x y => if x = 0 && y = 0 then lane mixed 0 0 ^^^ constant else lane mixed x y

def permute (s : State) : State :=
  roundConstants.foldl round s

def rate : Nat := 136

def padded (message : Bytes) : Bytes :=
  let gap := rate - message.length % rate
  message ++ if gap = 1 then [0x81] else 0x01 :: List.replicate (gap - 2) 0 ++ [0x80]

def laneOfBytes (bytes : Bytes) : UInt64 :=
  bytes.foldr (fun b w => (w <<< 8) ||| b.toUInt64) 0

def bytesOfLane (w : UInt64) : Bytes :=
  (List.range 8).map fun i => (w >>> UInt64.ofNat (8 * i)).toUInt8

def pieces (width : Nat) (message : Bytes) : List Bytes :=
  (List.range (message.length / width)).map fun i => (message.drop (i * width)).take width

def absorb (s : State) (block : Bytes) : State :=
  let lanes := (pieces 8 block).map laneOfBytes
  permute (ofLanes fun x y => lane s x y ^^^ lanes.getD (x + 5 * y) 0)

def digest (message : Bytes) : Bytes :=
  let s := (pieces rate (padded message)).foldl absorb empty
  (s.take 4).flatMap bytesOfLane

def digestText (text : String) : Bytes :=
  digest (text.toList.map fun c => UInt8.ofNat c.toNat)

end IdentityProof.Keccak

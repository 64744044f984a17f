import IdentityProof.Keccak
import IdentityProof.Text.Encoding

/-!
Addresses of contracts: twenty bytes, read from forty hexadecimal digits in either case and written
with the checksum that the case of the letters carries.
-/

namespace IdentityProof

structure ContractAddress where
  bytes : Bytes
  length_eq : bytes.length = 20
  deriving DecidableEq, Repr

namespace ContractAddress

def dropHexMark : List Char → List Char
  | '0' :: 'x' :: cs => cs
  | '0' :: 'X' :: cs => cs
  | cs => cs

def ofText? (text : String) : Option ContractAddress := do
  let bytes ← Text.bytesOfHexChars (dropHexMark text.toList)
  if h : bytes.length = 20 then some ⟨bytes, h⟩ else none

def withChecksum (digits : List Char) : List Char :=
  let digest := (Text.hex (Keccak.digestText (String.ofList digits))).toList
  (digits.zip digest).map fun (c, d) => if 8 ≤ (Text.hexDigit? d).getD 0 then c.toUpper else c

def text (a : ContractAddress) : String :=
  "0x" ++ String.ofList (withChecksum (Text.hex a.bytes).toList)

end ContractAddress
end IdentityProof

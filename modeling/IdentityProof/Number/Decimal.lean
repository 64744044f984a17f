import IdentityProof.Number.Basic
import IdentityProof.Number.Integer

/-!
Decimal text of binary floating-point numbers: the representable number nearest to a decimal, and
a reader that takes blanks, a sign, underscores between digits, an exponent and the words for what
is not finite.
-/

namespace IdentityProof.Binary64

/-- The number nearest to `coefficient * 10 ^ e`. Exponents far outside the range are settled by
size alone, the digits of a coefficient being counted from its bits. -/
def ofDecimal (negative : Bool) (coefficient : Nat) (e : Int) : Binary64 :=
  let size : Int := (coefficient.log2 * 30103 / 100000 : Nat)
  if coefficient = 0 || size + e < -400 then .finite negative 0 0
  else if 400 < size + e then .infinity negative
  else
    let (num, den) := powerOfTen e
    ofUnits negative (coefficient * num * unitsPerOne) den

structure Parts where
  whole : List Char
  fraction : List Char
  exponent : Int

def Parts.toBinary64 (p : Parts) (negative : Bool) : Binary64 :=
  ofDecimal negative (Integer.valueOf .ten (p.whole ++ p.fraction)) (p.exponent - p.fraction.length)

def isDigit (c : Char) : Bool := (Integer.Radix.digit? .ten c).isSome

def exponent? (cs : List Char) : Option Int :=
  let (negative, digits) := Integer.splitSign cs
  if digits.isEmpty || !digits.all isDigit then none
  else
    let n : Int := Integer.valueOf .ten digits
    some (if negative then -n else n)

def parts? (cs : List Char) : Option Parts :=
  let whole := cs.takeWhile isDigit
  let (fraction, rest) :=
    match cs.dropWhile isDigit with
    | '.' :: rest => (rest.takeWhile isDigit, rest.dropWhile isDigit)
    | rest => ([], rest)
  if whole.isEmpty && fraction.isEmpty then none
  else
    match rest with
    | [] => some { whole, fraction, exponent := 0 }
    | c :: rest =>
      if c == 'e' || c == 'E' then
        (exponent? rest).map fun e => { whole, fraction, exponent := e }
      else none

def underscoresJoinDigits : Option Char → List Char → Bool
  | before, [] => before != some '_'
  | before, c :: cs =>
    (if c == '_' then before.any isDigit else before != some '_' || isDigit c) &&
      underscoresJoinDigits (some c) cs

def read? (text : List Char) : Option Binary64 :=
  let ascii := if text.all Text.isAscii then text else text.map Integer.asciiForm
  let body := Text.trim Text.isPlainBlank ascii
  let (negative, unsigned) := Integer.splitSign (body.filter (· != '_'))
  let word := String.ofList (unsigned.map Char.toLower)
  if !underscoresJoinDigits none body then none
  else if word == "inf" || word == "infinity" then some (.infinity negative)
  else if word == "nan" then some .nan
  else (parts? unsigned).map fun p => p.toBinary64 negative

end IdentityProof.Binary64

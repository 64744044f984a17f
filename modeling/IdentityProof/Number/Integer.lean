import IdentityProof.Text.Quoted

/-!
Integers as text. The reader takes the digits of every script, a sign, blanks around the number
and single underscores between its digits. Decimal text is bounded in both directions, text in
base sixteen is not.
-/

namespace IdentityProof.Integer

def digitLimit : Nat := 4300

def fitsWord (half n : Int) : Bool :=
  -half ≤ n && n < half

inductive Radix where
  | ten
  | sixteen
  deriving DecidableEq, Repr

def Radix.size : Radix → Nat
  | .ten => 10
  | .sixteen => 16

def Radix.digit? : Radix → Char → Option Nat
  | .ten, c => if '0' ≤ c && c ≤ '9' then some (c.toNat - 0x30) else none
  | .sixteen, c => Text.hexDigit? c

inductive ReadError where
  | malformed (radix : Radix) (text : List Char)
  | tooLong (digits : Nat)
  deriving DecidableEq, Repr

def limitAdvice : String :=
  "; use sys.set_int_max_str_digits() to increase the limit"

def limitNotice : String :=
  "Exceeds the limit (" ++ toString digitLimit ++ " digits) for integer string conversion"

def ReadError.message : ReadError → String
  | .malformed radix text =>
    "invalid literal for int() with base " ++ toString radix.size ++ ": " ++
      String.ofList ((Text.quotedChars text).take 200)
  | .tooLong digits =>
    limitNotice ++ ": value has " ++ toString digits ++ " digits" ++ limitAdvice

def asciiForm (c : Char) : Char :=
  if c.toNat < 0x7f then c
  else if Text.isBlank c then ' '
  else
    match Text.digit? c with
    | some d => Nat.digitChar d
    | none => '?'

def isUnderscore (c : Char) : Bool := c == '_'

def underscoresFit : Bool → List Char → Bool
  | afterDigit, [] => afterDigit
  | afterDigit, c :: cs =>
    if isUnderscore c then afterDigit && underscoresFit false cs else underscoresFit true cs

def valueOf (radix : Radix) (digits : List Char) : Nat :=
  digits.foldl (fun n c => n * radix.size + (radix.digit? c).getD 0) 0

def splitSign : List Char → Bool × List Char
  | '+' :: cs => (false, cs)
  | '-' :: cs => (true, cs)
  | cs => (false, cs)

def dropRadixMark : Radix → List Char → List Char
  | .sixteen, '0' :: x :: cs =>
    if x == 'x' || x == 'X' then
      match cs with
      | '_' :: cs => cs
      | cs => cs
    else '0' :: x :: cs
  | _, cs => cs

def read (radix : Radix) (text : List Char) : Except ReadError Int :=
  let malformed := .error (.malformed radix text)
  let ascii := if text.all Text.isAscii then text else text.map asciiForm
  let (negative, unsigned) := splitSign (ascii.dropWhile Text.isPlainBlank)
  let body := dropRadixMark radix unsigned
  let isPart (c : Char) := (radix.digit? c).isSome || isUnderscore c
  let part := body.takeWhile isPart
  let digits := part.filter fun c => !isUnderscore c
  if part.isEmpty || !underscoresFit false part then malformed
  else if radix = .ten && digitLimit < digits.length then .error (.tooLong digits.length)
  else if !(body.dropWhile isPart).all Text.isPlainBlank then malformed
  else
    let n := valueOf radix digits
    .ok (if negative then -(n : Int) else n)

/-- The decimal text of an integer, none beyond the limit. -/
def text? (n : Int) : Option String :=
  if Nat.pow 10 digitLimit ≤ n.natAbs then none else some (toString n)

end IdentityProof.Integer

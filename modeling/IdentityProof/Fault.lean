import IdentityProof.Json.Reader

/-!
Faults: what goes wrong with a value that an operation did not expect, apart from the refusals
that the operation documents. Each fault is a cause, and its wording is one function.
-/

namespace IdentityProof

inductive Sequence where
  | text
  | array
  deriving DecidableEq, Repr

inductive WordFault where
  | tooLarge
  | aboveWord
  | belowWord
  deriving DecidableEq, Repr

inductive FileFault where
  | missing
  | notDirectory
  | isDirectory
  | nameTooLong
  deriving DecidableEq, Repr

inductive Fault where
  | notSubscriptable (kind : Json.Kind)
  | keyForText
  | keyForArray
  | indexOutOfRange (sequence : Sequence)
  | missingKey (key : String)
  | missingIndexKey (index : Nat)
  | notIterable (kind : Json.Kind)
  | notCharacter (length : Nat)
  | notCharacterText (kind : Json.Kind)
  | noLowerCase (kind : Json.Kind)
  | notMapping (kind : Json.Kind)
  | unordered (operator : String) (left right : Json.Kind)
  | integer (e : Integer.ReadError)
  | integerTooLong
  | json (e : Json.ReadError)
  | undecodable (e : Text.DecodeError)
  | unencodable (e : Text.EncodeError)
  | notJsonText (kind : Json.Kind)
  | negativeLength
  | notInteger (kind : Json.Kind)
  | integerFromInfinity
  | timestampNan
  | timestampOutOfRange
  | timestampYearTooLarge
  | yearOutOfRange (year : Int)
  | notWord (why : WordFault)
  | monthOutOfRange
  | dayOutOfRange
  | hourOutOfRange
  | minuteOutOfRange
  | secondOutOfRange
  | microsecondOutOfRange
  | dateOutOfRange
  | poolClosed
  | noWorkers
  | file (why : FileFault) (path : String)
  | nulInPath
  | textWithoutEncoding
  | notBytes (kind : Json.Kind)
  | byteOutOfRange
  | negativeCount
  | countTooLarge
  | bytesTooLong
  | outOfMemory
  | noCurrentRoot (verifier : String)
  | unknownSignal (shown : String)
  deriving DecidableEq, Repr

def FileFault.message : FileFault → String
  | .missing => "[Errno 2] No such file or directory: "
  | .notDirectory => "[Errno 20] Not a directory: "
  | .isDirectory => "[Errno 21] Is a directory: "
  | .nameTooLong => "[Errno 36] File name too long: "

def Fault.message : Fault → String
  | .notSubscriptable kind => "'" ++ kind.name ++ "' object is not subscriptable"
  | .keyForText => "string indices must be integers, not 'str'"
  | .keyForArray => "list indices must be integers or slices, not str"
  | .indexOutOfRange .text => "string index out of range"
  | .indexOutOfRange .array => "list index out of range"
  | .missingKey key => Text.quoted key
  | .missingIndexKey index => toString index
  | .notIterable kind => "'" ++ kind.name ++ "' object is not iterable"
  | .notCharacter length =>
    "ord() expected a character, but string of length " ++ toString length ++ " found"
  | .notCharacterText kind =>
    "ord() expected string of length 1, but " ++ kind.name ++ " found"
  | .noLowerCase kind => "'" ++ kind.name ++ "' object has no attribute 'lower'"
  | .notMapping kind => "'" ++ kind.name ++ "' object has no attribute 'get'"
  | .unordered operator left right =>
    "'" ++ operator ++ "' not supported between instances of '" ++ left.name ++ "' and '" ++
      right.name ++ "'"
  | .integer e => e.message
  | .integerTooLong => Integer.limitNotice ++ Integer.limitAdvice
  | .json e => e.message
  | .undecodable e => e.message
  | .unencodable e => e.message
  | .notJsonText kind => "the JSON object must be str, bytes or bytearray, not " ++ kind.name
  | .negativeLength => "length argument must be non-negative"
  | .notInteger kind => "'" ++ kind.name ++ "' object cannot be interpreted as an integer"
  | .integerFromInfinity => "cannot convert float infinity to integer"
  | .timestampNan => "Invalid value NaN (not a number)"
  | .timestampOutOfRange => "timestamp out of range for platform time_t"
  | .timestampYearTooLarge => "[Errno 75] Value too large for defined data type"
  | .yearOutOfRange year => "year " ++ toString year ++ " is out of range"
  | .notWord .tooLarge => "Python int too large to convert to C long"
  | .notWord .aboveWord => "signed integer is greater than maximum"
  | .notWord .belowWord => "signed integer is less than minimum"
  | .monthOutOfRange => "month must be in 1..12"
  | .dayOutOfRange => "day is out of range for month"
  | .hourOutOfRange => "hour must be in 0..23"
  | .minuteOutOfRange => "minute must be in 0..59"
  | .secondOutOfRange => "second must be in 0..59"
  | .microsecondOutOfRange => "microsecond must be in 0..999999"
  | .dateOutOfRange => "date value out of range"
  | .poolClosed => "cannot schedule new futures after shutdown"
  | .noWorkers => "max_workers must be greater than 0"
  | .file why path => why.message ++ Text.quoted path
  | .nulInPath => "embedded null byte"
  | .textWithoutEncoding => "string argument without an encoding"
  | .notBytes kind => "cannot convert '" ++ kind.name ++ "' object to bytes"
  | .byteOutOfRange => "bytes must be in range(0, 256)"
  | .negativeCount => "negative count"
  | .countTooLarge => "cannot fit 'int' into an index-sized integer"
  | .bytesTooLong => "byte string is too large"
  | .outOfMemory => ""
  | .noCurrentRoot verifier => "'" ++ verifier ++ "' object has no attribute 'current_root'"
  | .unknownSignal shown => shown ++ " is not a valid SignalID"

/-- What a fault is about. Who handles faults chooses them by it. -/
inductive FaultKind where
  | wrongType
  | noIndex
  | noKey
  | noAttribute
  | badValue
  | malformedJson
  | undecodable
  | unencodable
  | recursion
  | overflow
  | memory
  | state
  | system
  | file (why : FileFault)
  deriving DecidableEq, Repr

def FaultKind.isValue : FaultKind → Bool
  | .badValue | .malformedJson | .undecodable | .unencodable => true
  | _ => false

def Fault.kind : Fault → FaultKind
  | .notSubscriptable _ | .keyForText | .keyForArray | .notIterable _ | .notCharacter _
  | .notCharacterText _ | .unordered .. | .notJsonText _ | .notInteger _ | .textWithoutEncoding
  | .notBytes _ => .wrongType
  | .indexOutOfRange _ => .noIndex
  | .missingKey _ | .missingIndexKey _ => .noKey
  | .noLowerCase _ | .notMapping _ | .noCurrentRoot _ => .noAttribute
  | .integer _ | .integerTooLong | .json (.integer _) | .negativeLength | .timestampNan
  | .yearOutOfRange _ | .monthOutOfRange | .dayOutOfRange | .hourOutOfRange | .minuteOutOfRange
  | .secondOutOfRange | .microsecondOutOfRange | .noWorkers | .nulInPath | .byteOutOfRange
  | .negativeCount | .unknownSignal _ => .badValue
  | .json (.malformed _) => .malformedJson
  | .json (.undecodable _) | .undecodable _ => .undecodable
  | .unencodable _ => .unencodable
  | .json (.tooDeep _) => .recursion
  | .integerFromInfinity | .timestampOutOfRange | .notWord _ | .dateOutOfRange | .countTooLarge
  | .bytesTooLong => .overflow
  | .outOfMemory => .memory
  | .poolClosed => .state
  | .timestampYearTooLarge => .system
  | .file why _ => .file why

/-- How an operation ends without a result: with a refusal that it documents, or with a fault. -/
inductive Raised (ε : Type) where
  | refused (e : ε)
  | fault (f : Fault)
  deriving DecidableEq, Repr

namespace Raised

def map (wording : ε → δ) : Raised ε → Raised δ
  | .refused e => .refused (wording e)
  | .fault f => .fault f

def message (refusal : ε → String) : Raised ε → String
  | .refused e => refusal e
  | .fault f => f.message

end Raised

def Fault.lift (result : Except Fault α) : Except (Raised ε) α :=
  result.mapError .fault

end IdentityProof

import IdentityProof.Fault

/-!
Files of one working directory. A path is reduced to its parts before it is looked up and shown:
empty parts and parts of a single dot are left out.
-/

namespace IdentityProof

abbrev Files := List (String × Bytes)

namespace Files

def splitParts (cs : List Char) : List (List Char) :=
  cs.splitOn '/'

def parts (path : String) : List String :=
  ((splitParts path.toList).filter fun part => !part.isEmpty && part != ['.']).map String.ofList

def rootOf (path : String) : String :=
  match (path.toList.takeWhile (· == '/')).length with
  | 0 => ""
  | 2 => "//"
  | _ => "/"

def reduced (path : String) : String :=
  let body := "/".intercalate (parts path)
  if rootOf path == "" && body == "" then "." else rootOf path ++ body

def nameLimit : Nat := 255

def pathLimit : Nat := 4095

/-- What stands at the parts of a relative path. Nothing outside the directory is known but that
its parents are directories. -/
def lookup (files : Files) (inside : Bool) : List String → Except FileFault Bytes
  | [] => .error .isDirectory
  | ".." :: rest => lookup files false rest
  | name :: rest =>
    if nameLimit < name.utf8ByteSize then .error .nameTooLong
    else
      match if inside then List.lookup name files else none with
      | none => .error .missing
      | some content => if rest.isEmpty then .ok content else .error .notDirectory

def read (files : Files) (path : String) : Except Fault Bytes :=
  if path.toList.contains (Char.ofNat 0) then .error .nulInPath
  else
    let found := if pathLimit < (reduced path).utf8ByteSize then .error .nameTooLong
      else lookup files (rootOf path == "") (parts path)
    found.mapError fun why => .file why (reduced path)

end Files
end IdentityProof

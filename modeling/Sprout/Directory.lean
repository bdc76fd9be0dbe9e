import Sprout.Text.Utf8

set_option autoImplicit false

namespace Sprout

inductive FileError where
  | notFound | isDirectory | notDirectory | nameTooLong | notText
deriving DecidableEq, Repr

def FileError.reason : FileError → Text
  | notFound => "No such file or directory (os error 2)".toList
  | isDirectory => "Is a directory (os error 21)".toList
  | notDirectory => "Not a directory (os error 20)".toList
  | nameTooLong => "File name too long (os error 36)".toList
  | notText => "stream did not contain valid UTF-8".toList

abbrev Directory := List (Text × List UInt8)

namespace Directory

inductive Spot where
  | here
  | above
  | file (content : List UInt8)
deriving DecidableEq, Repr

-- The greatest lengths in bytes.
def maxNameSize : Nat := 255

def maxPathSize : Nat := 4095

def enter (d : Directory) : Spot → Text → Except FileError Spot
  | .file _, _ => .error .notDirectory
  | spot, [] => .ok spot
  | spot, ['.'] => .ok spot
  | _, ['.', '.'] => .ok .above
  | spot, name =>
    if maxNameSize < name.encode.length then .error .nameTooLong
    else
      match spot, d.lookup name with
      | .here, some content => .ok (.file content)
      | _, _ => .error .notFound

def read (d : Directory) (path : Text) : Except FileError (List UInt8) := do
  if path = [] then .error .notFound
  else if maxPathSize < path.encode.length then .error .nameTooLong
  else
    let start := if path.head? = some '/' then Spot.above else Spot.here
    match ← (path.splitOn '/').foldlM d.enter start with
    | .file content => .ok content
    | _ => .error .isDirectory

end Directory

end Sprout

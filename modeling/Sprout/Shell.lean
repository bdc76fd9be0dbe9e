import Sprout.Listing
import Sprout.Text.Utf8
import Sprout.Text.Whitespace
import Sprout.Transcript

set_option autoImplicit false

namespace Sprout

def version : Text := "0.1.0".toList

namespace Shell

def banner : Transcript where
  stdout := "Sprout v".toList ++ version ++
    "\nType 'exit' or press Ctrl+D to quit\n\n".toList

def prompt : Transcript where
  stdout := ">> ".toList

def farewell : Transcript where
  stdout := "Goodbye!\n".toList

def lineEnd : Transcript where
  stdout := "\n".toList

def readError : Transcript where
  stderr := ["Error reading input: stream did not contain valid UTF-8".toList]

def byteLines : List UInt8 → List (List UInt8)
  | [] => []
  | 10 :: rest => [10] :: byteLines rest
  | b :: rest => Text.extendFirst b (byteLines rest)

@[simp] theorem flatten_byteLines (bytes : List UInt8) : (byteLines bytes).flatten = bytes := by
  induction bytes using byteLines.induct with
  | case1 => rfl
  | case2 rest ih => simp [byteLines, ih]
  | case3 b rest other ih => simp [byteLines, ih]

def stripLineEnd (line : Text) : Text :=
  (line.reverse.dropWhile fun c => c == '\n' || c == '\r').reverse

inductive Reply where
  | goOn (shown : Transcript)
  | stop (shown : Transcript)
deriving DecidableEq, Repr

-- White space around a line does not count for what the line asks, only in the scan itself.
def answer (line : Text) : Reply :=
  let source := stripLineEnd line
  if source.trim = [] then .goOn {}
  else if source.trim = "exit".toList ∨ source.trim = "quit".toList then .stop farewell
  else
    let printout := run source none true
    .goOn { stdout := printout.stdout, reports := printout.reports }

def reply (line : List UInt8) : Reply :=
  match Text.decode? line with
  | some line => answer line
  | none => .stop readError

def converse : List (List UInt8) → Transcript
  | [] => prompt ++ lineEnd
  | line :: rest =>
    match reply line with
    | .goOn shown => prompt ++ shown ++ converse rest
    | .stop shown => prompt ++ shown

def session (input : List UInt8) : Transcript := banner ++ converse (byteLines input)

end Shell

end Sprout

import Sprout.CommandLine.Parse
import Sprout.Directory
import Sprout.Shell

set_option autoImplicit false

namespace Sprout

structure Outcome where
  exitCode : Nat
  shown : Transcript
deriving DecidableEq, Repr

namespace Program

def joinLines (lines : List Text) : Text := lines.flatMap fun line => line ++ ['\n']

def help : Text :=
  joinLines <| List.map String.toList
    ["Tokenizer for the Sprout language",
     "",
     "Usage: sprout [OPTIONS] [FILE]",
     "",
     "Arguments:",
     "  [FILE]  The source file to tokenize",
     "",
     "Options:",
     "  -e, --eval <SOURCE>  Tokenize the given source text instead of a file",
     "  -q, --quiet          Only print diagnostics, not the token stream",
     "  -i, --interactive    Start the interactive token shell",
     "  -h, --help           Print help",
     "  -V, --version        Print version"]

def printed (stdout : Text) : Outcome := ⟨0, { stdout }⟩

-- A wrong argument may hold line feeds: the first line of the message is all that is shown of it.
def stopped : CommandLine.Stop → Outcome
  | .help => printed help
  | .version => printed ("sprout ".toList ++ version ++ "\n".toList)
  | .usage error =>
    ⟨2, { stderr := [("error: ".toList ++ error.message).takeWhile (· != '\n')] }⟩

def scanned (source file : Text) (quiet : Bool) : Outcome :=
  let printout := run source (some file) (!quiet)
  ⟨if printout.count = 0 then 0 else 1,
    { stdout := printout.stdout, reports := printout.reports }⟩

def unreadable (path : Text) (error : FileError) : Outcome :=
  let message := "Error reading file '".toList ++ path ++ "': ".toList ++ error.reason
  ⟨1, { stderr := message.splitOn '\n' }⟩

def fileText (content : Except FileError (List UInt8)) : Except FileError Text := do
  match Text.decode? (← content) with
  | some source => .ok source
  | none => .error .notText

-- Quiet takes effect on a source only: the shell always shows the tokens, and always exits with 0.
def perform (settings : CommandLine.Settings) (files : Text → Except FileError (List UInt8))
    (stdin : List UInt8) : Outcome :=
  match settings.source with
  | some (.file path) =>
    match fileText (files path) with
    | .ok source => scanned source path settings.quiet
    | .error error => unreadable path error
  | some (.text source) => scanned source "<eval>".toList settings.quiet
  | none => ⟨0, Shell.session stdin⟩

def outcome (args : List Text) (files : Text → Except FileError (List UInt8))
    (stdin : List UInt8) : Outcome :=
  match CommandLine.parse args with
  | .ok settings => perform settings files stdin
  | .error stop => stopped stop

end Program

end Sprout

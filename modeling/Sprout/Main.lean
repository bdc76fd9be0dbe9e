import Sprout.Program

set_option autoImplicit false

namespace Sprout

def fileErrorOf : IO.Error → FileError
  | .inappropriateType _ 21 _ => .isDirectory
  | .inappropriateType _ _ _ => .notDirectory
  | .invalidArgument _ _ _ => .nameTooLong
  | _ => .notFound

def readFile (path : Text) : IO (Except FileError (List UInt8)) := do
  try
    let content ← IO.FS.readBinFile (String.ofList path)
    return .ok content.data.toList
  catch error => return .error (fileErrorOf error)

def printReport (report : Report) : IO Unit := do
  let lines := [some report.header, report.location.map Location.display, report.note]
  for line in lines.filterMap id do
    IO.eprintln (String.ofList line)

def printTranscript (shown : Transcript) : IO Unit := do
  let stdout ← IO.getStdout
  stdout.putStr (String.ofList shown.stdout)
  stdout.flush
  shown.reports.forM printReport
  for line in shown.stderr do
    IO.eprintln (String.ofList line)

-- One byte at a time, so that a line is answered before the next one is typed.
partial def readLine (stdin : IO.FS.Stream) (line : Array UInt8) : IO (List UInt8) := do
  let byte ← stdin.read 1
  if byte.isEmpty then return line.toList
  else if byte.data = #[10] then return (line.push 10).toList
  else readLine stdin (line ++ byte.data)

partial def converse (stdin : IO.FS.Stream) : IO Unit := do
  printTranscript Shell.prompt
  match ← readLine stdin #[] with
  | [] => printTranscript Shell.lineEnd
  | line =>
    match Shell.reply line with
    | .goOn shown =>
      printTranscript shown
      converse stdin
    | .stop shown => printTranscript shown

def conclude (outcome : Outcome) : IO UInt32 := do
  printTranscript outcome.shown
  return outcome.exitCode.toUInt32

def start (args : List Text) : IO UInt32 := do
  match CommandLine.parse args with
  | .error stop => conclude (Program.stopped stop)
  | .ok settings =>
    match settings.source with
    | none =>
      printTranscript Shell.banner
      converse (← IO.getStdin)
      return 0
    | some (.file path) =>
      let content ← readFile path
      conclude (Program.perform settings (fun _ => content) [])
    | some (.text _) => conclude (Program.perform settings (fun _ => .error .notFound) [])

end Sprout

def main (args : List String) : IO UInt32 :=
  Sprout.start (args.map String.toList)

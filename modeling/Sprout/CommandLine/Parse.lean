import Sprout.CommandLine.Settings

set_option autoImplicit false

namespace Sprout.CommandLine

inductive Argument where
  | plain (value : Text)
  | separator
  | long (name : Text) (value : Option Text)
  | short (letters : Text)
deriving DecidableEq, Repr

def Argument.ofText : Text → Argument
  | ['-'] => plain ['-']
  | ['-', '-'] => separator
  | '-' :: '-' :: body => long (body.takeWhile (· != '=')) (body.dropWhile (· != '=')).tail?
  | '-' :: letters => short letters
  | value => plain value

inductive Pending where
  | nothing
  | missing
  | taken (source : Text)
deriving DecidableEq, Repr

structure Progress where
  sources : List Source := []
  quiet : Bool := false
  interactive : Bool := false
  pending : Pending := .nothing
  filesOnly : Bool := false
deriving DecidableEq, Repr

namespace Progress

def reject (error : UsageError) : Except Stop Progress := .error (.usage error)

def addText (p : Progress) (source : Text) : Except Stop Progress :=
  if p.sources.all Source.isFile then
    .ok { p with sources := p.sources ++ [.text source], pending := .nothing }
  else reject (.repeated .eval)

def settle (p : Progress) : Except Stop Progress :=
  match p.pending with
  | .nothing => .ok p
  | .missing => reject (.missingValue .eval)
  | .taken source => p.addText source

-- A second file is refused before anything is settled.
def addFile (p : Progress) (path : Text) : Except Stop Progress :=
  if p.sources.any Source.isFile then reject (.unexpectedArgument path)
  else do
    let p ← p.settle
    .ok { p with sources := p.sources ++ [.file path] }

def attach (p : Progress) (source : Text) : Except Stop Progress := do
  (← p.settle).addText source

def activate (p : Progress) (switch : Switch) : Except Stop Progress := do
  let p ← p.settle
  match switch with
  | .eval => .ok { p with pending := .missing }
  | .quiet => if p.quiet then reject (.repeated .quiet) else .ok { p with quiet := true }
  | .interactive =>
    if p.interactive then reject (.repeated .interactive) else .ok { p with interactive := true }
  | .help => .error .help
  | .version => .error .version

def readLong (p : Progress) (name : Text) (value : Option Text) : Except Stop Progress :=
  match Switch.ofLong? name, value with
  | none, _ => reject (.unexpectedArgument ("--".toList ++ name))
  | some switch, none => p.activate switch
  | some .eval, some source => p.attach source
  | some switch, some value => reject (.unexpectedValue switch value)

def readShort (p : Progress) : Text → Except Stop Progress
  | [] => .ok p
  | letter :: rest =>
    match Switch.ofShort? letter, rest with
    | none, _ => reject (.unexpectedArgument ['-', letter])
    | some .eval, [] => p.activate .eval
    | some .eval, '=' :: source => p.attach source
    | some .eval, source => p.attach source
    | some switch, rest => do (← p.activate switch).readShort rest

def readPlain (p : Progress) (value : Text) : Except Stop Progress :=
  if p.pending = .missing then .ok { p with pending := .taken value } else p.addFile value

-- The separator gives no value to a switch that waits for one, nor does any argument behind it.
def read (p : Progress) (arg : Text) : Except Stop Progress :=
  if p.filesOnly then p.addFile arg
  else
    match Argument.ofText arg with
    | .plain value => p.readPlain value
    | .separator => .ok { p with filesOnly := true }
    | .long name value => p.readLong name value
    | .short letters => p.readShort letters

def finish (p : Progress) : Except Stop Settings := do
  let p ← p.settle
  match p.sources with
  | first :: second :: _ => .error (.usage (.conflict first second))
  | sources => .ok ⟨sources.head?, p.quiet, p.interactive⟩

end Progress

def parse (args : List Text) : Except Stop Settings := do
  (← args.foldlM Progress.read {}).finish

end Sprout.CommandLine

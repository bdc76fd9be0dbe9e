import Sprout.Diagnostic
import Sprout.Text.Lines

set_option autoImplicit false

namespace Sprout

inductive Colour where
  | red | yellow | cyan
deriving DecidableEq, Repr

namespace Colour

def code : Colour → Text
  | red => "31".toList
  | yellow => "33".toList
  | cyan => "36".toList

def paint (colour : Colour) (t : Text) : Text :=
  "\x1b[".toList ++ colour.code ++ "m".toList ++ t ++ "\x1b[0m".toList

end Colour

def Fault.colour : Fault → Colour
  | illegalCharacter => .red
  | unterminatedString => .yellow

def shellName : Text := "<repl>".toList

structure Location where
  file : Text
  place : Text.Place
deriving DecidableEq, Repr

def Location.display (l : Location) : Text :=
  l.file ++ ":".toList ++ Nat.toDigits 10 l.place.line ++ ":".toList ++
    Nat.toDigits 10 l.place.column

structure Report where
  header : Text
  location : Option Location
  note : Option Text
deriving DecidableEq, Repr

inductive ReportError where
  | reversedSpan
deriving DecidableEq, Repr

def ReportError.message : ReportError → Text
  | reversedSpan => "Label start is after its end".toList

def Span.place? (span : Span) (lines : List Text) : Option Text.Place :=
  if span.start < span.stop ∧ Text.locate? lines (span.stop - 1) = none then none
  else Text.locate? lines span.start

namespace Diagnostic

def header (d : Diagnostic) : Text :=
  let title := d.fault.colour.paint d.fault.title
  Colour.red.paint "Error:".toList ++ " ".toList ++ title ++ ": ".toList ++ d.message

def note? (d : Diagnostic) : Option Text :=
  d.help.map fun help => Colour.cyan.paint "help".toList ++ ": ".toList ++ help

-- Help belongs to a place: where none can be shown, only the header is.
def reportOn (d : Diagnostic) (lines : List Text) (file : Option Text) :
    Except ReportError Report :=
  if d.span.stop < d.span.start then .error .reversedSpan
  else
    match d.span.place? lines with
    | some place => .ok ⟨d.header, some ⟨file.getD shellName, place⟩, d.note?⟩
    | none => .ok ⟨d.header, none, none⟩

def report (d : Diagnostic) (source : Text) (file : Option Text) : Except ReportError Report :=
  d.reportOn source.lines file

end Diagnostic

end Sprout

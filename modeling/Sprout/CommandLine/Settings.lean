import Sprout.Text.ControlSequences

set_option autoImplicit false

namespace Sprout.CommandLine

inductive Switch where
  | eval | quiet | interactive | help | version
deriving DecidableEq, Repr

namespace Switch

def long : Switch → Text
  | eval => "eval".toList
  | quiet => "quiet".toList
  | interactive => "interactive".toList
  | help => "help".toList
  | version => "version".toList

def short : Switch → Char
  | eval => 'e'
  | quiet => 'q'
  | interactive => 'i'
  | help => 'h'
  | version => 'V'

def all : List Switch := [eval, quiet, interactive, help, version]

def ofLong? (name : Text) : Option Switch := all.find? fun switch => switch.long == name

def ofShort? (letter : Char) : Option Switch := all.find? fun switch => switch.short == letter

def usage : Switch → Text
  | eval => "--eval <SOURCE>".toList
  | other => "--".toList ++ other.long

end Switch

inductive Source where
  | file (path : Text)
  | text (source : Text)
deriving DecidableEq, Repr

def Source.isFile : Source → Bool
  | file _ => true
  | text _ => false

def Source.usage : Source → Text
  | file _ => "[FILE]".toList
  | text _ => Switch.eval.usage

inductive UsageError where
  | unexpectedArgument (arg : Text)
  | unexpectedValue (switch : Switch) (value : Text)
  | missingValue (switch : Switch)
  | repeated (switch : Switch)
  | conflict (first second : Source)
deriving DecidableEq, Repr

def UsageError.message : UsageError → Text
  | unexpectedArgument arg => "unexpected argument '".toList ++ arg.visible ++ "' found".toList
  | unexpectedValue switch value =>
    "unexpected value '".toList ++ value.visible ++ "' for '".toList ++ switch.usage ++
      "' found; no more were expected".toList
  | missingValue switch =>
    "a value is required for '".toList ++ switch.usage ++ "' but none was supplied".toList
  | repeated switch =>
    "the argument '".toList ++ switch.usage ++ "' cannot be used multiple times".toList
  | conflict first second =>
    "the argument '".toList ++ first.usage ++ "' cannot be used with '".toList ++ second.usage ++
      "'".toList

inductive Stop where
  | help
  | version
  | usage (error : UsageError)
deriving DecidableEq, Repr

structure Settings where
  source : Option Source
  quiet : Bool
  interactive : Bool
deriving DecidableEq, Repr

end Sprout.CommandLine

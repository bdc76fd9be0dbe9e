import Sprout.Token.Basic

set_option autoImplicit false

namespace Sprout

-- Character offsets, the stop excluded. Whoever builds a span by hand may reverse it.
structure Span where
  start : Nat
  stop : Nat
deriving DecidableEq, Repr

def Span.single (position : Nat) : Span := ⟨position, position + 1⟩

inductive Fault where
  | illegalCharacter | unterminatedString
deriving DecidableEq, Repr

def Fault.title : Fault → Text
  | illegalCharacter => "Illegal Character".toList
  | unterminatedString => "Unterminated String".toList

structure Diagnostic where
  fault : Fault
  span : Span
  message : Text
  help : Option Text := none
deriving DecidableEq, Repr

namespace Diagnostic

def illegalCharacter (t : Token) : Diagnostic where
  fault := .illegalCharacter
  span := .single t.position
  message := "Unexpected character: '".toList ++ t.literal.escapeInMessage ++ "'".toList

def unterminatedString (span : Span) : Diagnostic where
  fault := .unterminatedString
  span := span
  message := "String literal is missing its closing quote".toList
  help := some "add a '\"' to close the string".toList

def display (d : Diagnostic) : Text :=
  d.fault.title ++ " at ".toList ++ Nat.toDigits 10 d.span.start ++ ": ".toList ++ d.message

end Diagnostic

end Sprout

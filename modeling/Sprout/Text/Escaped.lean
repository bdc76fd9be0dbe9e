import Sprout.Text.Combining
import Sprout.Text.Printable

set_option autoImplicit false

namespace Sprout.Text

def escapeLetter? : Char → Option Char
  | '\x00' => some '0'
  | '\t' => some 't'
  | '\n' => some 'n'
  | '\r' => some 'r'
  | '\\' => some '\\'
  | '"' => some '"'
  | _ => none

def codePointEscape (c : Char) : Text :=
  "\\u\x7b".toList ++ Nat.toDigits 16 c.toNat ++ "\x7d".toList

def escapeChar (c : Char) : Text :=
  match escapeLetter? c with
  | some letter => ['\\', letter]
  | none => if isPrintable c then [c] else codePointEscape c

def escapeAlone (c : Char) : Text :=
  if isCombining c then codePointEscape c else escapeChar c

def escapeInLiteral (t : Text) : Text := t.flatMap escapeAlone

def quoted (t : Text) : Text := '"' :: t.escapeInLiteral ++ ['"']

example : quoted "a\n'é\u0301".toList = "\"a\\n'é\\u\x7b301\x7d\"".toList := by decide

def escapeQuote (escape : Char → Text) (c : Char) : Text :=
  if c = '\'' then ['\\', '\''] else escape c

def escapeInMessage : Text → Text
  | [] => []
  | c :: rest => escapeQuote escapeAlone c ++ rest.flatMap (escapeQuote escapeChar)

end Sprout.Text

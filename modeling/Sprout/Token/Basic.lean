import Sprout.Text.Escaped
import Sprout.Token.Kind

set_option autoImplicit false

namespace Sprout

structure Token where
  kind : Kind
  literal : Text
  position : Nat
deriving DecidableEq, Repr

namespace Token

def isEof (t : Token) : Bool := t.kind == .eof

def display (t : Token) : Text :=
  t.kind.spelling ++ " ".toList ++ t.literal.quoted ++ " @".toList ++ Nat.toDigits 10 t.position

end Token

end Sprout

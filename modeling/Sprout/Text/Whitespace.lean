import Sprout.Text.Basic
import Sprout.Text.CodePoints

set_option autoImplicit false

namespace Sprout.Text

-- White_Space, which is wider than the blanks of the language.
def whitespace : CodePoints where
  ranges := [(0x9, 0xD), (0x20, 0x20), (0x85, 0x85), (0xA0, 0xA0), (0x1680, 0x1680),
    (0x2000, 0x200A), (0x2028, 0x2029), (0x202F, 0x202F), (0x205F, 0x205F), (0x3000, 0x3000)]

def trim (t : Text) : Text :=
  ((t.dropWhile whitespace.contains).reverse.dropWhile whitespace.contains).reverse

example : trim " \u00a0exit\r\n".toList = "exit".toList := by decide

end Sprout.Text

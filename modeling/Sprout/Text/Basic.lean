set_option autoImplicit false

namespace Sprout

abbrev Text := List Char

def isBlank (c : Char) : Bool :=
  c == ' ' || c == '\t' || c == '\n' || c == '\r'

-- `Char.isAlpha` and `Char.isDigit` know ASCII only, and so do words and numbers.
def isWordStart (c : Char) : Bool := c.isAlpha || c == '_'

def isWordPart (c : Char) : Bool := isWordStart c || c.isDigit

theorem isWordPart_of_isWordStart {c : Char} (start : isWordStart c = true) :
    isWordPart c = true := by
  simp [isWordPart, start]

end Sprout

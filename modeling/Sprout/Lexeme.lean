import Sprout.StringLiteral
import Sprout.Token.Basic

set_option autoImplicit false

namespace Sprout

inductive Lexeme where
  | symbol (s : Symbol)
  | word (w : Text)
  | number (digits : Text)
  | string (raw : Text) (closed : Bool)
  | stray (c : Char)
deriving DecidableEq, Repr

namespace Lexeme

def text : Lexeme → Text
  | symbol s => s.text
  | word w => w
  | number digits => digits
  | string raw closed => '"' :: raw ++ if closed then ['"'] else []
  | stray c => [c]

def kind : Lexeme → Kind
  | symbol s => .symbol s
  | word w => .ofWord w
  | number _ => .int
  | string _ _ => .string
  | stray _ => .illegal

def literal : Lexeme → Text
  | string raw _ => unescape raw
  | other => other.text

def token (x : Lexeme) (position : Nat) : Token := ⟨x.kind, x.literal, position⟩

def readString (rest : Text) : Lexeme × Text :=
  match spanContent rest with
  | (raw, _ :: after) => (string raw true, after)
  | (raw, []) => (string raw false, [])

def read (c : Char) (rest : Text) : Lexeme × Text :=
  match Symbol.leading? (c :: rest) with
  | some s => (symbol s, (c :: rest).drop s.text.length)
  | none =>
    if c = '"' then readString rest
    else if isWordStart c then
      (word (c :: rest.takeWhile isWordPart), rest.dropWhile isWordPart)
    else if c.isDigit then
      (number (c :: rest.takeWhile Char.isDigit), rest.dropWhile Char.isDigit)
    else (stray c, rest)

theorem text_readString (rest : Text) :
    (readString rest).1.text ++ (readString rest).2 = '"' :: rest := by
  have whole := spanContent_append rest
  unfold readString
  split
  next raw c after found =>
    have quote : c = '"' := head?_spanContent (congrArg Prod.snd found)
    simpa [text, found, quote] using whole
  next raw found => simpa [text, found] using whole

theorem text_read (c : Char) (rest : Text) :
    (read c rest).1.text ++ (read c rest).2 = c :: rest := by
  unfold read
  split
  next s found =>
    obtain ⟨after, same⟩ := Symbol.text_isPrefix_of_leading? found
    simp [text, ← same]
  next =>
    split
    next quote => rw [quote, text_readString]
    next =>
      split
      · simp [text]
      · split <;> simp [text]

theorem text_read_pos (c : Char) (rest : Text) : 0 < (read c rest).1.text.length := by
  unfold read readString
  split
  next s _ => cases s <;> simp [text, Symbol.text]
  next => split <;> (try split) <;> (try split) <;> simp [text]

theorem length_read_le (c : Char) (rest : Text) : (read c rest).2.length ≤ rest.length := by
  have whole := congrArg List.length (text_read c rest)
  have progress := text_read_pos c rest
  simp only [List.length_append, List.length_cons] at whole
  omega

end Lexeme

end Sprout

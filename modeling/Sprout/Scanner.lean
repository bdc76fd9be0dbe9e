import Sprout.Diagnostic
import Sprout.Lexeme

set_option autoImplicit false

namespace Sprout

structure Scanner where
  rest : Text
  position : Nat
  faults : List Diagnostic
deriving DecidableEq, Repr

def Lexeme.faults (start : Nat) : Lexeme → List Diagnostic
  | string content false =>
    [.unterminatedString ⟨start, start + (string content false).text.length⟩]
  | _ => []

namespace Scanner

def ofText (source : Text) : Scanner := ⟨source, 0, []⟩

def next (s : Scanner) : Token × Scanner :=
  let start := s.position + (s.rest.takeWhile isBlank).length
  match s.rest.dropWhile isBlank with
  | [] => (⟨.eof, [], start⟩, ⟨[], start, s.faults⟩)
  | c :: rest =>
    let (x, after) := Lexeme.read c rest
    (x.token start, ⟨after, start + x.text.length, s.faults ++ x.faults start⟩)

def take : Nat → Scanner → List Token × Scanner
  | 0, s => ([], s)
  | n + 1, s => (take n s.next.2).map (s.next.1 :: ·) id

theorem length_next_lt {s : Scanner} (more : s.next.1.isEof = false) :
    s.next.2.rest.length < s.rest.length := by
  have skipped : (s.rest.takeWhile isBlank).length + (s.rest.dropWhile isBlank).length =
      s.rest.length := by
    rw [← List.length_append, List.takeWhile_append_dropWhile]
  unfold next at more ⊢
  split at more
  next => simp [Token.isEof] at more
  next c rest found =>
    have := Lexeme.length_read_le c rest
    simp only [found, List.length_cons] at skipped ⊢
    omega

def drain (s : Scanner) : List Token × Scanner :=
  if _ : s.next.1.isEof = false then (drain s.next.2).map (s.next.1 :: ·) id
  else ([s.next.1], s.next.2)
termination_by s.rest.length
decreasing_by exact length_next_lt ‹_›

end Scanner

def tokenize (source : Text) : List Token := (Scanner.ofText source).drain.1

end Sprout

import Sprout.Text.Basic

set_option autoImplicit false

namespace Sprout.Text

def isTerminator (c : Char) : Bool :=
  c ∈ ['\n', '\r', '\u000b', '\u000c', '\u0085', '\u2028', '\u2029']

def extendFirst {α : Type} (a : α) : List (List α) → List (List α)
  | [] => [[a]]
  | line :: rest => (a :: line) :: rest

@[simp] theorem flatten_extendFirst {α : Type} (a : α) (lines : List (List α)) :
    (extendFirst a lines).flatten = a :: lines.flatten := by
  cases lines <;> simp [extendFirst]

def lines : Text → List Text
  | [] => []
  | '\r' :: '\n' :: rest => ['\r', '\n'] :: lines rest
  | c :: rest => if isTerminator c then [c] :: lines rest else extendFirst c (lines rest)

@[simp] theorem flatten_lines (t : Text) : t.lines.flatten = t := by
  induction t using lines.induct with
  | case1 => rfl
  | case2 rest ih => simp [lines, ih]
  | case3 c rest _ terminator ih => simp [lines, terminator, ih]
  | case4 c rest _ ordinary ih => simp [lines, ordinary, ih]

structure Place where
  line : Nat
  column : Nat
deriving DecidableEq, Repr

def locate? : List Text → Nat → Option Place
  | [], _ => none
  | [line], offset => if offset ≤ line.length then some ⟨1, offset + 1⟩ else none
  | line :: rest, offset =>
    if offset < line.length then some ⟨1, offset + 1⟩
    else (locate? rest (offset - line.length)).map fun place => ⟨place.line + 1, place.column⟩

example : locate? (lines "a\r\nb\n".toList) 5 = some ⟨2, 3⟩ := by decide

end Sprout.Text

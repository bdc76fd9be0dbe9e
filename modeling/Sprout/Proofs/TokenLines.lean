import Sprout.Listing
import Sprout.Proofs.Escaping
import Sprout.Proofs.LongestMatch

set_option autoImplicit false

namespace Sprout

namespace Kind

def all : List Kind :=
  [illegal, eof, ident, int, string] ++ Symbol.all.map symbol ++ Keyword.all.map keyword

def ofSpelling? (w : Text) : Option Kind := all.find? fun kind => kind.spelling == w

theorem ofSpelling?_spelling (kind : Kind) : ofSpelling? kind.spelling = some kind := by
  cases kind with
  | symbol s => cases s <;> rfl
  | keyword k => cases k <;> rfl
  | _ => rfl

theorem spelling_inj {a b : Kind} (same : a.spelling = b.spelling) : a = b := by
  have found := ofSpelling?_spelling a
  rw [same, ofSpelling?_spelling b] at found
  exact (Option.some.inj found).symm

theorem space_not_mem_spelling (kind : Kind) : ' ' ∉ kind.spelling := by
  cases kind with
  | symbol s => cases s <;> decide
  | keyword k => cases k <;> decide
  | _ => decide

end Kind

namespace Token

def line (t : Token) : Text := t.display ++ ['\n']

theorem line_append (t : Token) (x : Text) :
    t.line ++ x =
      t.kind.spelling ++ ' ' :: '"' :: (t.literal.flatMap Text.escapeAlone ++
        '"' :: ' ' :: '@' :: (Nat.toDigits 10 t.position ++ '\n' :: x)) := by
  simp [line, display, Text.quoted, Text.escapeInLiteral]

theorem line_append_inj {t u : Token} {x y : Text} (same : t.line ++ x = u.line ++ y) :
    t = u ∧ x = y := by
  rw [line_append, line_append] at same
  obtain ⟨sameSpelling, same⟩ :=
    cut_unique t.kind.space_not_mem_spelling u.kind.space_not_mem_spelling same
  obtain ⟨sameLiteral, same⟩ :=
    Text.escaped_unique Text.escapes_escapeAlone Text.escapes_escapeAlone (List.cons.inj same).2
  simp only [List.cons.injEq, true_and] at same
  obtain ⟨sameDigits, sameRest⟩ :=
    cut_unique (not_mem_toDigits (by decide) _) (not_mem_toDigits (by decide) _) same
  have sameKind : t.kind = u.kind := Kind.spelling_inj sameSpelling
  have samePosition : t.position = u.position := toDigits_inj (by omega) (by omega) sameDigits
  refine ⟨?_, sameRest⟩
  calc
    t = ⟨t.kind, t.literal, t.position⟩ := rfl
    _ = ⟨u.kind, u.literal, u.position⟩ := by rw [sameKind, sameLiteral, samePosition]
    _ = u := rfl

theorem line_ne_nil (t : Token) : t.line ≠ [] := by
  simp [line]

theorem flatMap_line_inj {ts us : List Token} (same : ts.flatMap line = us.flatMap line) :
    ts = us := by
  induction ts generalizing us with
  | nil =>
    cases us with
    | nil => rfl
    | cons u us => simp [line_ne_nil] at same
  | cons t ts ih =>
    cases us with
    | nil => simp [line_ne_nil] at same
    | cons u us =>
      obtain ⟨rfl, later⟩ := line_append_inj same
      rw [ih later]

end Token

theorem run_stdout (source : Text) (file : Option Text) :
    (run source file true).stdout = (withoutEof (tokenize source)).flatMap Token.line := rfl

theorem token_lines_determine_tokens :
    (∀ ts us : List Token,
      ts.flatMap (fun t => t.display ++ ['\n']) = us.flatMap (fun t => t.display ++ ['\n']) ↔
        ts = us) ∧
    ∀ (a b : Text) (file file' : Option Text),
      (run a file true).stdout = (run b file' true).stdout ↔
        withoutEof (tokenize a) = withoutEof (tokenize b) := by
  have lines (ts us : List Token) : ts.flatMap Token.line = us.flatMap Token.line ↔ ts = us := by
    constructor
    · exact Token.flatMap_line_inj
    · rintro rfl
      rfl
  refine ⟨lines, ?_⟩
  intro a b file file'
  rw [run_stdout, run_stdout]
  exact lines _ _

end Sprout

import Sprout.Text.Basic

set_option autoImplicit false

namespace Sprout

-- The characters that a backslash takes with it, so a quote among them closes nothing.
def escapable : List Char := ['"', '\\', 'n', 't', 'r']

/-- What is written up to the quote that closes a string, and the text from that quote on. -/
def spanContent : Text → Text × Text
  | [] => ([], [])
  | '"' :: rest => ([], '"' :: rest)
  | '\\' :: next :: rest =>
    if next ∈ escapable then (spanContent rest).map (fun raw => '\\' :: next :: raw) id
    else (spanContent (next :: rest)).map ('\\' :: ·) id
  | c :: rest => (spanContent rest).map (c :: ·) id

/-- What is written between the quotes of a string, decoded. -/
def unescape : Text → Text
  | [] => []
  | c :: rest =>
    if c ≠ '\\' then c :: unescape rest
    else
      match rest with
      | '"' :: behind => '"' :: unescape behind
      | '\\' :: behind => '\\' :: unescape behind
      | 'n' :: behind => '\n' :: unescape behind
      | 't' :: behind => '\t' :: unescape behind
      | 'r' :: behind => '\r' :: unescape behind
      | other => '\\' :: unescape other

theorem spanContent_append (t : Text) : (spanContent t).1 ++ (spanContent t).2 = t := by
  induction t using spanContent.induct with
  | case1 => rfl
  | case2 rest => rfl
  | case3 next rest known ih => simp [spanContent, known, ih]
  | case4 next rest unknown ih => simp [spanContent, unknown, ih]
  | case5 c rest notQuote notEscape ih =>
    rw [spanContent]
    · simp [ih]
    · exact notQuote
    · exact notEscape

theorem head?_spanContent {t after : Text} {c : Char} (closing : (spanContent t).2 = c :: after) :
    c = '"' := by
  induction t using spanContent.induct with
  | case1 => simp [spanContent] at closing
  | case2 rest => simpa [spanContent, eq_comm] using (List.cons.inj closing).1
  | case3 next rest known ih => exact ih (by simpa [spanContent, known] using closing)
  | case4 next rest unknown ih => exact ih (by simpa [spanContent, unknown] using closing)
  | case5 c' rest notQuote notEscape ih =>
    rw [spanContent] at closing
    · exact ih (by simpa using closing)
    · exact notQuote
    · exact notEscape

example : spanContent ['\\', '"', '"', 'a'] = (['\\', '"'], ['"', 'a']) := by decide

example : unescape ['\\', '"', '\\', 'a'] = ['"', '\\', 'a'] := by decide

end Sprout

import Mathlib.Algebra.Order.BigOperators.Group.List
import Sprout.Proofs.Diagnostics
import Sprout.Proofs.Escaping

set_option autoImplicit false

namespace Sprout

theorem flatMap_eq_self_iff {f : Char → Text} (solid : ∀ c, f c ≠ []) {t : Text} :
    t.flatMap f = t ↔ ∀ c ∈ t, f c = [c] := by
  induction t with
  | nil => simp
  | cons c rest ih =>
    rw [List.flatMap_cons, List.forall_mem_cons]
    constructor
    · intro same
      obtain ⟨d, more, found⟩ := List.exists_cons_of_ne_nil (solid c)
      rw [found, List.cons_append] at same
      obtain ⟨rfl, later⟩ := List.cons.inj same
      have grows : rest.length ≤ (rest.flatMap f).length := by
        rw [List.length_flatMap, ← List.length_map fun c => (f c).length]
        apply List.length_le_sum_of_one_le
        simpa [Nat.one_le_iff_ne_zero] using fun c _ => solid c
      have lengths := congrArg List.length later
      rw [List.length_append] at lengths
      obtain rfl : more = [] := List.eq_nil_of_length_eq_zero (by omega)
      exact ⟨found, ih.mp later⟩
    · rintro ⟨single, others⟩
      rw [single, ih.mpr others, List.singleton_append]

namespace Units

variable {after raw value : Text}

theorem solid {c : Char} (notQuote : c ≠ '"') (notBackslash : c ≠ '\\')
    (units : Units after raw value) : Units after (c :: raw) (c :: value) :=
  .plain notQuote (fun backslash => absurd backslash notBackslash) units

theorem run {front : Text} (inside : ∀ c ∈ front, c ≠ '"' ∧ c ≠ '\\')
    (units : Units after raw value) : Units after (front ++ raw) (front ++ value) := by
  induction front with
  | nil => exact units
  | cons c front ih =>
    obtain ⟨⟨notQuote, notBackslash⟩, inside⟩ := List.forall_mem_cons.mp inside
    exact (ih inside).solid notQuote notBackslash

theorem unknown {c : Char} (unknown : ∀ e ∈ escapes, c ≠ e.1)
    (units : Units after (c :: raw) value) : Units after ('\\' :: c :: raw) ('\\' :: value) := by
  refine .plain (by decide) ?_ units
  intro _ e known
  simpa using unknown e known

end Units

theorem Decomposition.cuts_quoted {raw value : Text} (units : Units ['"'] raw value) :
    (item [] ('"' :: raw ++ ['"']) (.closedString value) (stop [])).Cuts
      ('"' :: raw ++ ['"']) := by
  refine ⟨⟨?_, ⟨⟨raw, rfl, units⟩, ?_⟩, ?_⟩, ?_⟩ <;> simp [IsBlankRun, Valid, text]

namespace Text

def kept (c : Char) (written : Text) : Text :=
  if written = ['\\', '0'] ∨ written = codePointEscape c then written else [c]

def quotedBy (write : Char → Text) (t : Text) : Text := '"' :: t.flatMap write ++ ['"']

theorem known_or_null {c letter : Char} (known : escapeLetter? c = some letter) :
    (letter, c) ∈ escapes ∨ (c, letter) = ('\x00', '0') := by
  have listed : ∀ p ∈ escapeLetters, (p.2, p.1) ∈ escapes ∨ p = ('\x00', '0') := by decide
  exact listed _ (mem_escapeLetters known)

theorem kept_known {letter c : Char} (known : (letter, c) ∈ escapes) :
    kept c ['\\', letter] = [c] := by
  have listed : ∀ e ∈ escapes, kept e.2 ['\\', e.1] = [e.2] := by decide
  exact listed _ known

theorem kept_codePoint (c : Char) : kept c (codePointEscape c) = codePointEscape c :=
  if_pos (.inr rfl)

theorem kept_ne_nil (c : Char) (written : Text) : kept c written ≠ [] := by
  unfold kept
  split
  next verbatim => rcases verbatim with rfl | rfl <;> simp [codePointEscape]
  next => simp

theorem two_lt_length_codePointEscape (c : Char) : 2 < (codePointEscape c).length := by
  simp [codePointEscape]

namespace Escapes

variable {c : Char} {written : Text} (writes : Escapes c written)

include writes

theorem units {after raw value : Text} (more : Units after raw value) :
    Units after (written ++ raw) (kept c written ++ value) := by
  cases writes with
  | plain notQuote notBackslash =>
    rw [kept, ite_self]
    exact more.solid notQuote notBackslash
  | letter known =>
    rcases known_or_null known with known | null
    · rw [kept_known known]
      exact .escape known more
    · cases null
      exact .unknown (by decide) (more.solid (by decide) (by decide))
  | codePoint =>
    rw [kept_codePoint, codePointEscape_append, codePointEscape_append]
    have digits : ∀ d ∈ Nat.toDigits 16 c.toNat, d ≠ '"' ∧ d ≠ '\\' := by
      intro d member
      obtain ⟨n, small, rfl⟩ := exists_digitChar (by omega) member
      have listed : ∀ n < 16, n.digitChar ≠ '"' ∧ n.digitChar ≠ '\\' := by decide
      exact listed n small
    have closed : Units after ('\x7d' :: raw) ('\x7d' :: value) :=
      more.solid (by decide) (by decide)
    have number := (closed.run digits).solid (by decide : '\x7b' ≠ '"') (by decide)
    exact .unknown (by decide) (number.solid (by decide) (by decide))

theorem kept_eq_iff :
    kept c written = [c] ↔ written = [c] ∨ ∃ e ∈ escapes, written = ['\\', e.1] := by
  cases writes with
  | plain notQuote notBackslash => simp [kept]
  | letter known =>
    rcases known_or_null known with known | null
    · exact iff_of_true (kept_known known) (.inr ⟨_, known, rfl⟩)
    · cases null
      decide
  | codePoint =>
    have long := two_lt_length_codePointEscape c
    rw [kept_codePoint, iff_self_or]
    rintro ⟨e, -, same⟩
    simp [same] at long

end Escapes

theorem units_flatMap {write : Char → Text} (writes : ∀ c, Escapes c (write c)) (after t : Text) :
    Units after (t.flatMap write) (t.flatMap fun c => kept c (write c)) := by
  induction t with
  | nil => exact .none
  | cons c rest ih => exact (writes c).units ih

end Text

theorem quoted_literal_is_string :
    (∀ c, Text.Escapes c (Text.escapeAlone c)) ∧
    (∀ t : Token, t.display = t.kind.spelling ++ " ".toList ++
      Text.quotedBy Text.escapeAlone t.literal ++ " @".toList ++ Nat.toDigits 10 t.position) ∧
    ∀ (write : Char → Text) (literal : Text), (∀ c, Text.Escapes c (write c)) →
      let q := Text.quotedBy write literal
      let value := literal.flatMap fun c => Text.kept c (write c)
      tokenize q = [⟨.string, value, 0⟩, ⟨.eof, [], q.length⟩] ∧
      (scan q).diagnostics = [] ∧
      (value = literal ↔
        ∀ c ∈ literal, write c = [c] ∨ ∃ e ∈ escapes, write c = ['\\', e.1]) := by
  refine ⟨Text.escapes_escapeAlone, fun _ => rfl, ?_⟩
  intro write literal writes q value
  have cuts : (Decomposition.item [] q (.closedString value) (.stop [])).Cuts q :=
    Decomposition.cuts_quoted (Text.units_flatMap writes ['"'] literal)
  refine ⟨?_, ?_, ?_⟩
  · rw [tokenize_eq_tokens cuts, Decomposition.tokens_item, Decomposition.tokens_stop]
    simp [Form.kind, Form.literal]
  · exact scan_diagnostics cuts
  · rw [flatMap_eq_self_iff fun c => Text.kept_ne_nil c (write c)]
    simp only [(writes _).kept_eq_iff]

theorem quoted_literal_is_string_null_accent :
    let literal : Text := ['\x00', '\n', '"', 'e', '\u0301']
    let value : Text := ['\\', '0', '\n', '"', 'e'] ++ "\\u\x7b301\x7d".toList
    tokenize literal.quoted = [⟨.string, value, 0⟩, ⟨.eof, [], 16⟩] ∧
      (scan literal.quoted).diagnostics = [] ∧
      ¬ ∀ c ∈ literal,
        Text.escapeAlone c = [c] ∨ ∃ e ∈ escapes, Text.escapeAlone c = ['\\', e.1] := by
  intro literal value
  obtain ⟨escaped, -, scanned⟩ := quoted_literal_is_string
  obtain ⟨tokens, clean, same⟩ := scanned Text.escapeAlone literal escaped
  have read : (literal.flatMap fun c => Text.kept c (Text.escapeAlone c)) = value := by decide
  rw [read] at tokens same
  have size : literal.quoted.length = 16 := by decide
  have differ : value ≠ literal := by decide
  exact ⟨size ▸ tokens, clean, mt same.mpr differ⟩

end Sprout

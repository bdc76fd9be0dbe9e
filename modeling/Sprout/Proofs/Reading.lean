import Mathlib.Data.Bool.AllAny
import Mathlib.Data.List.TakeWhile
import Sprout.Lexeme
import Sprout.Proofs.Grammar
import Sprout.Scanner

set_option autoImplicit false

namespace Sprout

theorem span_run {p : Char → Bool} {run after : Text} (inside : ∀ c ∈ run, p c = true)
    (ends : ∀ c, after.head? = some c → p c = false) :
    (run ++ after).takeWhile p = run ∧ (run ++ after).dropWhile p = after := by
  have stopped : after.takeWhile p = [] ∧ after.dropWhile p = after := by
    cases after with
    | nil => exact ⟨rfl, rfl⟩
    | cons c rest => simp [ends c rfl]
  simp [List.takeWhile_append_of_pos inside, List.dropWhile_append_of_pos inside, stopped]

theorem head?_afterRun {p : Char → Bool} {t : Text} {c : Char}
    (next : (t.dropWhile p).head? = some c) : p c = false := by
  have stopped := List.head?_dropWhile_not p t
  rwa [next] at stopped

-- `List.all` and `List.any` are decided here, as to decide a statement on the members of a list of
-- characters would go through all characters.
theorem not_mem_of_class {p : Char → Bool} {others : List Char}
    (outside : others.any p = false) {c : Char} (inside : p c = true) : c ∉ others := by
  intro member
  exact List.any_eq_false.mp outside c member inside

theorem isBlank_iff {c : Char} : isBlank c = true ↔ c ∈ [' ', '\t', '\n', '\r'] := by
  simp [isBlank, or_assoc]

theorem not_isBlank_of_mark {c : Char} (mark : c ∈ marks) : isBlank c = false := by
  have others : ∀ c ∈ marks, isBlank c = false := List.all_iff_forall_prop.mp (by decide)
  exact others c mark

theorem not_isBlank_of_isWordPart {c : Char} (part : isWordPart c = true) :
    isBlank c = false := by
  rw [Bool.eq_false_iff, ne_eq, isBlank_iff]
  exact not_mem_of_class (by decide) part

theorem isWordPart_of_isDigit {c : Char} (digit : c.isDigit = true) : isWordPart c = true := by
  simp [isWordPart, digit]

theorem IsWord.isWordPart {w : Text} (isWord : IsWord w) {c : Char} (member : c ∈ w) :
    isWordPart c = true := by
  cases w with
  | nil => exact absurd isWord id
  | cons d rest =>
    rcases List.mem_cons.mp member with rfl | member
    · exact isWordPart_of_isWordStart isWord.1
    · exact isWord.2 c member

theorem not_isWordStart_of_isDigit {c : Char} (digit : c.isDigit = true) :
    isWordStart c = false := by
  have below : c.val ≤ '9'.val := of_decide_eq_true ((Bool.and_eq_true _ _).mp digit).2
  rw [Bool.eq_false_iff]
  intro start
  rw [isWordStart, Bool.or_eq_true, beq_iff_eq] at start
  rcases start with letter | rfl
  next =>
    rcases (Bool.or_eq_true _ _).mp letter with upper | lower
    next =>
      have above : 'A'.val ≤ c.val := (of_decide_eq_true upper).1
      exact absurd (UInt32.le_trans above below) (by decide)
    next =>
      have above : 'a'.val ≤ c.val := of_decide_eq_true ((Bool.and_eq_true _ _).mp lower).1
      exact absurd (UInt32.le_trans above below) (by decide)
  next => exact absurd below (by decide)

theorem isStray_iff {c : Char} :
    isStray c = true ↔
      isBlank c = false ∧ isWordStart c = false ∧ c.isDigit = false ∧ c ≠ '"' ∧ c ∉ marks := by
  simp [isStray, isWordPart, and_assoc]

theorem mem_escapable_iff {c : Char} : c ∈ escapable ↔ ∃ e ∈ escapes, e.1 = c := by
  have same : escapable = escapes.map Prod.fst := rfl
  rw [same, List.mem_map]

theorem spanContent_escape {c : Char} (known : c ∈ escapable) (rest : Text) :
    spanContent ('\\' :: c :: rest) = (spanContent rest).map (['\\', c] ++ ·) id := by
  simp [spanContent, known]

theorem spanContent_plain {c : Char} {rest : Text} (notQuote : c ≠ '"')
    (single : c = '\\' → ∀ e ∈ escapes, rest.head? ≠ some e.1) :
    spanContent (c :: rest) = (spanContent rest).map (c :: ·) id := by
  by_cases backslash : c = '\\'
  next =>
    subst backslash
    cases rest with
    | nil => simp [spanContent]
    | cons d rest =>
      have unknown : d ∉ escapable := by
        rw [mem_escapable_iff]
        rintro ⟨e, known, rfl⟩
        exact single rfl e known rfl
      simp [spanContent, unknown]
  next =>
    rw [spanContent]
    · exact notQuote
    · intro d rest' same
      exact absurd same backslash

theorem unescape_escape {e : Char × Char} (known : e ∈ escapes) (rest : Text) :
    unescape ('\\' :: e.1 :: rest) = e.2 :: unescape rest := by
  simp only [escapes, List.mem_cons, List.not_mem_nil, or_false] at known
  rcases known with rfl | rfl | rfl | rfl | rfl <;> simp [unescape]

theorem unescape_plain {c : Char} {rest : Text}
    (single : c = '\\' → ∀ e ∈ escapes, rest.head? ≠ some e.1) :
    unescape (c :: rest) = c :: unescape rest := by
  by_cases backslash : c = '\\'
  next =>
    subst backslash
    have other (d : Char) (known : d ∈ escapable) (behind : Text) : rest ≠ d :: behind := by
      obtain ⟨e, listed, rfl⟩ := mem_escapable_iff.mp known
      rintro rfl
      exact single rfl e listed rfl
    rw [unescape, if_neg (by simp)]
    all_goals exact other _ (by decide)
  next => exact (unescape.eq_def _).trans (if_pos backslash)

namespace Units

variable {raw value after : Text}

theorem spanContent_append (units : Units after raw value) :
    spanContent (raw ++ after) = (spanContent after).map (raw ++ ·) id := by
  induction units with
  | none => rfl
  | plain notQuote single more ih =>
    rw [List.cons_append, spanContent_plain notQuote single, ih]
    rfl
  | escape known more ih =>
    have known := mem_escapable_iff.mpr ⟨_, known, rfl⟩
    rw [List.cons_append, List.cons_append, spanContent_escape known, ih]
    rfl

theorem unescape_append (units : Units after raw value) :
    unescape (raw ++ after) = value ++ unescape after := by
  induction units with
  | none => rfl
  | plain notQuote single more ih =>
    rw [List.cons_append, unescape_plain single, ih, List.cons_append]
  | escape known more ih =>
    rw [List.cons_append, List.cons_append, unescape_escape known, ih, List.cons_append]

theorem unescape_eq (units : Units after raw value) : unescape raw = value := by
  induction units with
  | none => rfl
  | @plain c raw value notQuote single more ih =>
    rw [unescape_plain, ih]
    intro backslash e known same
    refine single backslash e known ?_
    rw [List.head?_append, same, Option.some_or]
  | escape known more ih => rw [unescape_escape known, ih]

end Units

theorem units_spanContent (t : Text) :
    Units (spanContent t).2 (spanContent t).1 (unescape (spanContent t).1) := by
  have ⟨value, units⟩ : ∃ value, Units (spanContent t).2 (spanContent t).1 value := by
    induction t using spanContent.induct with
    | case1 => exact ⟨_, .none⟩
    | case2 rest => exact ⟨_, .none⟩
    | case3 next rest known ih =>
      obtain ⟨value, units⟩ := ih
      obtain ⟨e, listed, rfl⟩ := mem_escapable_iff.mp known
      rw [spanContent_escape known]
      exact ⟨_, .escape listed units⟩
    | case4 next rest unknown ih =>
      obtain ⟨value, units⟩ := ih
      have single : '\\' = '\\' → ∀ e ∈ escapes, (next :: rest).head? ≠ some e.1 := by
        rintro - e known same
        exact unknown (mem_escapable_iff.mpr ⟨e, known, (Option.some.inj same).symm⟩)
      rw [spanContent_plain (by decide) single]
      rw [← Sprout.spanContent_append (next :: rest)] at single
      exact ⟨_, .plain (by decide) single units⟩
    | case5 c rest notQuote notEscape ih =>
      obtain ⟨value, units⟩ := ih
      have single : c = '\\' → ∀ e ∈ escapes, rest.head? ≠ some e.1 := by
        rintro rfl e -
        cases rest with
        | nil => simp
        | cons d rest => exact absurd rfl (notEscape d rest rfl)
      rw [spanContent_plain notQuote single]
      rw [← Sprout.spanContent_append rest] at single
      exact ⟨_, .plain notQuote single units⟩
  rwa [units.unescape_eq]

namespace Symbol

theorem text_begins_with_mark (s : Symbol) : ∃ c ∈ marks, ∃ rest, s.text = c :: rest := by
  cases s <;> exact ⟨_, by decide, _, rfl⟩

theorem text_subset_marks (s : Symbol) {c : Char} (member : c ∈ s.text) : c ∈ marks := by
  have inside : ∀ c ∈ s.text, c ∈ marks := List.all_iff_forall_prop.mp (by cases s <;> decide)
  exact inside c member

theorem exists_text_eq_mark {c : Char} (mark : c ∈ marks) : ∃ s : Symbol, s.text = [c] := by
  have listed : ∀ c ∈ marks, ∃ s ∈ all, s.text = [c] := List.all_iff_forall_prop.mp (by decide)
  obtain ⟨s, -, same⟩ := listed c mark
  exact ⟨s, same⟩

theorem leading?_eq_none_iff (c : Char) (rest : Text) :
    leading? (c :: rest) = none ↔ c ∉ marks := by
  rw [leading?, List.find?_eq_none]
  constructor
  · intro unknown mark
    obtain ⟨s, same⟩ := exists_text_eq_mark mark
    exact unknown s (mem_all s) (by simp [same, List.isPrefixOf])
  · intro other s _
    obtain ⟨d, mark, more, same⟩ := s.text_begins_with_mark
    have differs : d ≠ c := by
      rintro rfl
      exact other mark
    simp [same, List.isPrefixOf, differs]

theorem leading?_text_append_iff (s : Symbol) (after : Text) :
    leading? (s.text ++ after) = some s ↔
      ∀ c, after.head? = some c → (Kind.symbol s).extendedBy c = false := by
  cases after with
  | nil => cases s <;> simp <;> rfl
  | cons c rest =>
    cases s <;>
      simp [leading?, all, text, List.isPrefixOf, Kind.extendedBy, @eq_comm _ c '=']

end Symbol

namespace Keyword

theorem ofWord?_eq_some_iff {w : Text} {k : Keyword} : ofWord? w = some k ↔ w = k.word := by
  constructor
  · intro found
    have same : k.word = w := by simpa using List.find?_some found
    exact same.symm
  · rintro rfl
    exact ofWord?_word k

theorem ofWord?_eq_none_iff {w : Text} : ofWord? w = none ↔ ∀ k : Keyword, w ≠ k.word := by
  simp only [Option.eq_none_iff_forall_ne_some, ne_eq, ofWord?_eq_some_iff]

theorem isWord_word (k : Keyword) : ∃ c rest, k.word = c :: rest ∧ IsWord (c :: rest) := by
  cases k <;> exact ⟨_, _, rfl, by decide, List.all_iff_forall_prop.mp (by decide)⟩

end Keyword

namespace Lexeme

def form : Lexeme → Form
  | symbol s => .symbol s
  | word w =>
    match Keyword.ofWord? w with
    | some k => .keyword k
    | none => .ident
  | number _ => .number
  | string raw true => .closedString (unescape raw)
  | string raw false => .openString (unescape raw)
  | stray _ => .stray

theorem token_eq (x : Lexeme) (position : Nat) :
    x.token position = ⟨x.form.kind, x.form.literal x.text, position⟩ := by
  cases x with
  | word w =>
    cases found : Keyword.ofWord? w <;>
      simp [token, kind, literal, form, Kind.ofWord, found, Form.kind, Form.literal]
  | string raw closed => cases closed <;> rfl
  | symbol s => rfl
  | number digits => rfl
  | stray c => rfl

theorem faults_eq (x : Lexeme) (start : Nat) : x.faults start = x.form.faults start x.text := by
  cases x with
  | word w =>
    cases found : Keyword.ofWord? w <;> simp [faults, form, found, Form.faults]
  | string raw closed => cases closed <;> rfl
  | symbol s => rfl
  | number digits => rfl
  | stray c => rfl

theorem form_word_hasShape {w : Text} (isWord : IsWord w) : (word w).form.HasShape w := by
  cases found : Keyword.ofWord? w with
  | some k => simpa [form, found, Form.HasShape] using Keyword.ofWord?_eq_some_iff.mp found
  | none =>
    simpa [form, found, Form.HasShape, isWord] using Keyword.ofWord?_eq_none_iff.mp found

theorem form_word_extendedBy (w : Text) (c : Char) :
    (word w).form.extendedBy c = isWordPart c := by
  cases found : Keyword.ofWord? w <;>
    simp [form, found, Form.extendedBy, Form.kind, Kind.extendedBy]

theorem read_quote (rest : Text) : read '"' rest = readString rest := by
  have unknown := (Symbol.leading?_eq_none_iff '"' rest).mpr (by decide)
  simp [read, unknown]

theorem literal_readString (rest : Text) :
    (readString rest).1.literal = unescape (spanContent rest).1 := by
  unfold readString
  split <;> rename_i found <;> rw [found] <;> rfl

theorem readString_admits (rest : Text) :
    (readString rest).1.form.Admits (readString rest).1.text (readString rest).2 := by
  have units := units_spanContent rest
  unfold readString
  split
  next raw c after found =>
    obtain rfl := head?_spanContent (congrArg Prod.snd found)
    rw [found] at units
    refine ⟨⟨_, by simp [text], units.congr rfl⟩, ?_⟩
    simp [form, Form.extendedBy, Form.kind, Kind.extendedBy]
  next raw found =>
    rw [found] at units
    exact ⟨⟨_, by simp [text], units⟩, by simp⟩

theorem admits_read {c : Char} (solid : isBlank c = false) (rest : Text) :
    (read c rest).1.form.Admits (read c rest).1.text (read c rest).2 := by
  unfold read
  split
  next s found =>
    obtain ⟨after, same⟩ := Symbol.text_isPrefix_of_leading? found
    rw [← same] at found ⊢
    rw [List.drop_left]
    exact ⟨rfl, (Symbol.leading?_text_append_iff s after).mp found⟩
  next unknown =>
    have noMark := (Symbol.leading?_eq_none_iff c rest).mp unknown
    split
    next => exact readString_admits rest
    next notQuote =>
      split
      next start =>
        refine ⟨form_word_hasShape ⟨start, fun d => List.mem_takeWhile_imp⟩, ?_⟩
        intro d next
        rw [form_word_extendedBy]
        exact head?_afterRun next
      next noWord =>
        split
        next digit =>
          refine ⟨⟨by simp [text], ?_⟩, fun d next => head?_afterRun next⟩
          intro d member
          rcases List.mem_cons.mp member with rfl | member
          · exact digit
          · exact List.mem_takeWhile_imp member
        next noDigit =>
          refine ⟨⟨c, rfl, ?_⟩, by simp [form, Form.extendedBy, Form.kind, Kind.extendedBy]⟩
          rw [isStray_iff]
          exact ⟨solid, by simpa using noWord, by simpa using noDigit, notQuote, noMark⟩

theorem read_word {c : Char} {rest after : Text} (isWord : IsWord (c :: rest))
    (ends : ∀ d, after.head? = some d → isWordPart d = false) :
    read c (rest ++ after) = (word (c :: rest), after) := by
  obtain ⟨start, parts⟩ := isWord
  have noMark : c ∉ marks := not_mem_of_class (by decide) start
  have notQuote : c ∉ ['"'] := not_mem_of_class (by decide) start
  have unknown := (Symbol.leading?_eq_none_iff c (rest ++ after)).mpr noMark
  obtain ⟨taken, left⟩ := span_run parts ends
  rw [List.mem_singleton] at notQuote
  simp [read, unknown, notQuote, start, taken, left]

theorem read_number {c : Char} {rest after : Text} (isNumber : IsNumber (c :: rest))
    (ends : ∀ d, after.head? = some d → d.isDigit = false) :
    read c (rest ++ after) = (number (c :: rest), after) := by
  have digit := isNumber.2 c (List.mem_cons_self ..)
  have noMark : c ∉ marks := not_mem_of_class (by decide) digit
  have notQuote : c ∉ ['"'] := not_mem_of_class (by decide) digit
  have unknown := (Symbol.leading?_eq_none_iff c (rest ++ after)).mpr noMark
  have noWord := not_isWordStart_of_isDigit digit
  obtain ⟨taken, left⟩ :=
    span_run (fun d member => isNumber.2 d (List.mem_cons_of_mem c member)) ends
  rw [List.mem_singleton] at notQuote
  simp [read, unknown, notQuote, noWord, digit, taken, left]

theorem read_string {raw value after : Text} (units : Units ['"'] raw value) :
    read '"' (raw ++ '"' :: after) = (string raw true, after) := by
  have units : Units ('"' :: after) raw value := units.congr rfl
  simp [read_quote, readString, units.spanContent_append, spanContent]

theorem read_openString {raw value : Text} (units : Units [] raw value) :
    read '"' raw = (string raw false, []) := by
  have found := units.spanContent_append
  rw [List.append_nil] at found
  simp [read_quote, readString, found, spanContent]

end Lexeme

theorem Form.read_of_admits {form : Form} {lexeme after : Text}
    (admits : form.Admits lexeme after) :
    ∃ c rest x, lexeme = c :: rest ∧ isBlank c = false ∧
      Lexeme.read c (rest ++ after) = (x, after) ∧ x.text = lexeme ∧ x.form = form := by
  obtain ⟨shape, longest⟩ := admits
  cases form with
  | keyword k =>
    obtain rfl := shape
    obtain ⟨c, rest, same, isWord⟩ := k.isWord_word
    rw [same]
    refine ⟨c, rest, .word (c :: rest), rfl, ?_, Lexeme.read_word isWord longest, rfl, ?_⟩
    · exact not_isBlank_of_isWordPart (isWordPart_of_isWordStart isWord.1)
    · simp [Lexeme.form, ← same]
  | ident =>
    obtain ⟨isWord, noKeyword⟩ := shape
    cases lexeme with
    | nil => exact absurd isWord id
    | cons c rest =>
      refine ⟨c, rest, .word (c :: rest), rfl, ?_, Lexeme.read_word isWord longest, rfl, ?_⟩
      · exact not_isBlank_of_isWordPart (isWordPart_of_isWordStart isWord.1)
      · simp [Lexeme.form, Keyword.ofWord?_eq_none_iff.mpr noKeyword]
  | number =>
    cases lexeme with
    | nil => exact absurd rfl shape.1
    | cons c rest =>
      refine ⟨c, rest, .number (c :: rest), rfl, ?_, Lexeme.read_number shape longest, rfl, rfl⟩
      exact not_isBlank_of_isWordPart (isWordPart_of_isDigit (shape.2 c (List.mem_cons_self ..)))
  | symbol s =>
    obtain rfl := shape
    obtain ⟨c, mark, rest, same⟩ := s.text_begins_with_mark
    have found := (Symbol.leading?_text_append_iff s after).mpr longest
    refine ⟨c, rest, .symbol s, same, not_isBlank_of_mark mark, ?_, rfl, rfl⟩
    rw [same, List.cons_append] at found
    simp [Lexeme.read, found, same]
  | closedString value =>
    obtain ⟨raw, rfl, units⟩ := shape
    have read := @Lexeme.read_string raw value after units
    refine ⟨'"', _, _, rfl, by decide, by simpa using read, by simp [Lexeme.text], ?_⟩
    rw [Lexeme.form, units.unescape_eq]
  | openString value =>
    have last : after = [] := Admits.after_eq_nil ⟨shape, longest⟩
    obtain ⟨raw, rfl, units⟩ := shape
    subst last
    have read := Lexeme.read_openString units
    refine ⟨'"', _, _, rfl, by decide, by simpa using read, by simp [Lexeme.text], ?_⟩
    rw [Lexeme.form, units.unescape_eq]
  | stray =>
    obtain ⟨c, rfl, isStray⟩ := shape
    obtain ⟨solid, noWord, noDigit, notQuote, noMark⟩ := isStray_iff.mp isStray
    refine ⟨c, [], .stray c, rfl, solid, ?_, rfl, rfl⟩
    have unknown := (Symbol.leading?_eq_none_iff c after).mpr noMark
    simp [Lexeme.read, unknown, notQuote, noWord, noDigit]

end Sprout

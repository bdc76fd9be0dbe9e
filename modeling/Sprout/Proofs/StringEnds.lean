import Mathlib.Algebra.Group.Nat.Even
import Mathlib.Order.Bounds.Basic
import Sprout.Proofs.CursorProgress

set_option autoImplicit false

namespace Sprout

def backslashesAtEnd (t : Text) : Nat := (t.reverse.takeWhile (· == '\\')).length

def Closes (content : Text) (offset : Nat) : Prop :=
  content[offset]? = some '"' ∧ Even (backslashesAtEnd (content.take offset))

/-- A quote that would close the string that a quote has opened. Backslashes are counted back to the
opening quote at most. -/
def ClosesAt (source : Text) (quote stop : Nat) : Prop :=
  quote < stop ∧ source[stop]? = some '"' ∧
    Even (backslashesAtEnd ((source.take stop).drop (quote + 1)))

instance (source : Text) (quote stop : Nat) : Decidable (ClosesAt source quote stop) :=
  inferInstanceAs (Decidable (_ ∧ _ ∧ _))

structure OpensAt (source : Text) (start quote : Nat) : Prop where
  start_le : start ≤ quote
  blank : IsBlankRun ((source.take quote).drop start)
  found : source[quote]? = some '"'

-- Whether a backslash has been read that is not written yet, as it depends on what is behind it.
def decodeHolding : Bool → Text → Text
  | false, [] => []
  | true, [] => ['\\']
  | false, c :: rest =>
    if c = '\\' then decodeHolding true rest else c :: decodeHolding false rest
  | true, c :: rest =>
    match escapes.lookup c with
    | some value => value :: decodeHolding false rest
    | none => '\\' :: c :: decodeHolding false rest

def decodeEscapes (raw : Text) : Text := decodeHolding false raw

theorem backslashesAtEnd_append (front t : Text) :
    backslashesAtEnd (front ++ t) =
      if backslashesAtEnd t = t.length then t.length + backslashesAtEnd front
      else backslashesAtEnd t := by
  rw [backslashesAtEnd, List.reverse_append, List.takeWhile_append, List.length_reverse]
  split
  next full =>
    have full : backslashesAtEnd t = t.length := full
    rw [if_pos full, List.length_append, List.length_reverse]
    rfl
  next other =>
    have other : backslashesAtEnd t ≠ t.length := other
    rw [if_neg other]
    rfl

theorem even_backslashesAtEnd_append {front : Text} (even : Even (backslashesAtEnd front))
    (t : Text) : Even (backslashesAtEnd (front ++ t)) ↔ Even (backslashesAtEnd t) := by
  rw [backslashesAtEnd_append]
  split
  next full => rw [full, Nat.even_add, iff_true_right even]
  next => rfl

theorem even_backslashesAtEnd_solid {c : Char} (notBackslash : c ≠ '\\') (front t : Text) :
    Even (backslashesAtEnd (front ++ c :: t)) ↔ Even (backslashesAtEnd t) := by
  have none : Even (backslashesAtEnd (front ++ [c])) := by
    simp [backslashesAtEnd, notBackslash]
  rw [← List.singleton_append, ← List.append_assoc]
  exact even_backslashesAtEnd_append none t

structure Skips (front t : Text) : Prop where
  inside : ∀ offset < front.length, ¬ Closes (front ++ t) offset
  behind : ∀ offset, Closes (front ++ t) (front.length + offset) ↔ Closes t offset

theorem Skips.append {first last t : Text} (skips : Skips first (last ++ t))
    (more : Skips last t) : Skips (first ++ last) t := by
  constructor
  · intro offset less
    rw [List.append_assoc]
    by_cases here : offset < first.length
    next => exact skips.inside offset here
    next =>
      obtain ⟨later, rfl⟩ := Nat.exists_eq_add_of_le (Nat.le_of_not_lt here)
      rw [skips.behind]
      apply more.inside
      rw [List.length_append] at less
      omega
  · intro offset
    rw [List.append_assoc, List.length_append, Nat.add_assoc, skips.behind, more.behind]

theorem skips_solid {c : Char} (notQuote : c ≠ '"') (notBackslash : c ≠ '\\') (t : Text) :
    Skips [c] t := by
  constructor
  · intro offset less
    obtain rfl : offset = 0 := by simpa using less
    simp [Closes, notQuote]
  · intro offset
    have even := even_backslashesAtEnd_solid notBackslash [] (t.take offset)
    simpa [Closes, Nat.add_comm 1] using fun _ => even

theorem skips_backslash {t : Text} (single : ∀ e ∈ escapes, t.head? ≠ some e.1) :
    Skips ['\\'] t := by
  constructor
  · intro offset less
    obtain rfl : offset = 0 := by simpa using less
    simp [Closes]
  · intro offset
    cases t with
    | nil => simp [Closes, Nat.add_comm 1]
    | cons c rest =>
      have notQuote : c ≠ '"' := by simpa using single ('"', '"') (by decide)
      have notBackslash : c ≠ '\\' := by simpa using single ('\\', '\\') (by decide)
      cases offset with
      | zero => simp [Closes, notQuote]
      | succ offset =>
        have here := even_backslashesAtEnd_solid notBackslash ['\\'] (rest.take offset)
        have there := even_backslashesAtEnd_solid notBackslash [] (rest.take offset)
        simpa [Closes, Nat.add_comm 1] using fun _ => here.trans there.symm

theorem skips_escape {e : Char × Char} (known : e ∈ escapes) (t : Text) :
    Skips ['\\', e.1] t := by
  have even : ∀ e ∈ escapes, Even (backslashesAtEnd ['\\', e.1]) := by decide
  have odd : ¬ Even (backslashesAtEnd ['\\']) := by decide
  constructor
  · intro offset less
    match offset, less with
    | 0, _ => simp [Closes]
    | 1, _ => simp [Closes, odd]
  · intro offset
    have same := even_backslashesAtEnd_append (even e known) (t.take offset)
    simpa [Closes, Nat.add_comm 2] using fun _ => same

namespace Units

variable {after raw value : Text}

theorem skips (units : Units after raw value) : Skips raw after := by
  induction units with
  | none => exact ⟨by simp, by simp⟩
  | @plain c raw value notQuote single more ih =>
    by_cases backslash : c = '\\'
    next =>
      subst backslash
      exact (skips_backslash (single rfl)).append ih
    next => exact (skips_solid notQuote backslash (raw ++ after)).append ih
  | @escape e raw value known more ih => exact (skips_escape known (raw ++ after)).append ih

end Units

theorem decodeEscapes_escape {e : Char × Char} (known : e ∈ escapes) (rest : Text) :
    decodeEscapes ('\\' :: e.1 :: rest) = e.2 :: decodeEscapes rest := by
  have decoded : ∀ e ∈ escapes, escapes.lookup e.1 = some e.2 := by decide
  simp [decodeEscapes, decodeHolding, decoded e known]

-- Where the second pass only looks at a character, the decoder has read it already.
theorem decodeEscapes_plain {c : Char} {rest : Text}
    (single : c = '\\' → ∀ e ∈ escapes, rest.head? ≠ some e.1) :
    decodeEscapes (c :: rest) = c :: decodeEscapes rest := by
  by_cases backslash : c = '\\'
  next =>
    subst backslash
    cases rest with
    | nil => rfl
    | cons d rest =>
      have unknown : escapes.lookup d = none := by
        rw [List.lookup_eq_none_iff]
        intro e known
        simpa using single rfl e known
      have notBackslash : d ≠ '\\' := by simpa using single rfl ('\\', '\\') (by decide)
      simp [decodeEscapes, decodeHolding, unknown, notBackslash]
  next => exact if_neg backslash

theorem unescape_eq_decodeEscapes : ∀ raw : Text, unescape raw = decodeEscapes raw
  | [] => rfl
  | c :: rest => by
    by_cases single : c = '\\' → ∀ e ∈ escapes, rest.head? ≠ some e.1
    next => rw [unescape_plain single, decodeEscapes_plain single, unescape_eq_decodeEscapes rest]
    next =>
      push Not at single
      obtain ⟨rfl, e, known, next⟩ := single
      obtain ⟨behind, rfl⟩ := List.head?_eq_some_iff.mp next
      rw [unescape_escape known, decodeEscapes_escape known, unescape_eq_decodeEscapes behind]

theorem mem_escapable_iff_decoded {c : Char} {behind : Text} :
    c ∈ escapable ↔ ∃ value, unescape ('\\' :: c :: behind) = value :: unescape behind := by
  constructor
  · intro known
    obtain ⟨e, listed, rfl⟩ := mem_escapable_iff.mp known
    exact ⟨e.2, unescape_escape listed behind⟩
  · rintro ⟨value, decoded⟩
    by_contra unknown
    have other (e : Char × Char) (listed : e ∈ escapes) : c ≠ e.1 := by
      rintro rfl
      exact unknown (mem_escapable_iff.mpr ⟨e, listed, rfl⟩)
    have notBackslash : c ≠ '\\' := other ('\\', '\\') (by decide)
    rw [unescape_plain (by simpa using other), unescape_plain (by simp [notBackslash])] at decoded
    have longer := congrArg List.length decoded
    simp at longer

theorem exists_content (t : Text) :
    ∃ raw, (Units [] raw (unescape raw) ∧ spanContent t = (raw, []) ∧ t = raw) ∨
      ∃ after, Units ['"'] raw (unescape raw) ∧ spanContent t = (raw, '"' :: after) ∧
        t = raw ++ '"' :: after := by
  have units := units_spanContent t
  have whole := spanContent_append t
  refine ⟨(spanContent t).1, ?_⟩
  cases closing : (spanContent t).2 with
  | nil =>
    rw [closing] at units whole
    rw [List.append_nil] at whole
    exact .inl ⟨units, Prod.ext rfl closing, whole.symm⟩
  | cons c after =>
    obtain rfl := head?_spanContent closing
    rw [closing] at units whole
    exact .inr ⟨after, units.congr rfl, Prod.ext rfl closing, whole.symm⟩

namespace OpensAt

variable {source content : Text} {start quote : Nat}

theorem drop_eq (opens : OpensAt source start quote) :
    source.drop start =
      (source.take quote).drop start ++ '"' :: source.drop (quote + 1) := by
  obtain ⟨inside, found⟩ := List.getElem?_eq_some_iff.mp opens.found
  have length : (source.take quote).length = quote := List.length_take_of_le (Nat.le_of_lt inside)
  have cut := source.take_append_drop quote
  rw [List.drop_eq_getElem_cons inside, found] at cut
  conv_lhs => rw [← cut]
  rw [List.drop_append_of_le_length (length.symm ▸ opens.start_le)]

theorem position_eq (opens : OpensAt source start quote) :
    start + ((source.take quote).drop start).length = quote := by
  obtain ⟨inside, -⟩ := List.getElem?_eq_some_iff.mp opens.found
  have := opens.start_le
  rw [List.length_drop, List.length_take]
  omega

end OpensAt

theorem closesAt_iff {source : Text} {quote offset : Nat} :
    ClosesAt source quote (quote + 1 + offset) ↔ Closes (source.drop (quote + 1)) offset := by
  rw [ClosesAt, Closes, List.getElem?_drop, List.drop_take, Nat.add_sub_cancel_left]
  exact and_iff_right (by omega)

theorem isLeast_closesAt {source raw after : Text} {quote : Nat}
    (content : source.drop (quote + 1) = raw ++ '"' :: after) (skips : Skips raw ('"' :: after)) :
    IsLeast {stop | ClosesAt source quote stop} (quote + 1 + raw.length) := by
  constructor
  · have here : Closes ('"' :: after) 0 := ⟨rfl, by simp [backslashesAtEnd]⟩
    show ClosesAt source quote (quote + 1 + raw.length)
    rw [closesAt_iff, content]
    exact (skips.behind 0).mpr here
  · intro stop closes
    obtain ⟨offset, rfl⟩ := Nat.exists_eq_add_of_le (Nat.succ_le_of_lt closes.1)
    have closes : Closes (raw ++ '"' :: after) offset := content ▸ closesAt_iff.mp closes
    by_contra less
    exact skips.inside offset (by omega) closes

theorem not_closesAt {source raw : Text} {quote : Nat} (content : source.drop (quote + 1) = raw)
    (skips : Skips raw []) (stop : Nat) : ¬ ClosesAt source quote stop := by
  intro closes
  obtain ⟨offset, rfl⟩ := Nat.exists_eq_add_of_le (Nat.succ_le_of_lt closes.1)
  have closes : Closes raw offset := content ▸ closesAt_iff.mp closes
  obtain ⟨inside, -⟩ := List.getElem?_eq_some_iff.mp closes.1
  exact skips.inside offset inside (by rwa [List.append_nil])

namespace Scanner

theorem next_of_closed {s : Scanner} {source raw value after : Text} {quote : Nat}
    (stands : s.StandsIn source) (opens : OpensAt source s.position quote)
    (content : source.drop (quote + 1) = raw ++ '"' :: after) (units : Units ['"'] raw value) :
    s.next = (⟨.string, value, quote⟩, ⟨after, quote + 1 + raw.length + 1, s.faults⟩) := by
  have admits : (Form.closedString value).Admits ('"' :: raw ++ ['"']) after :=
    ⟨⟨raw, rfl, units⟩, by simp [Form.extendedBy, Form.kind, Kind.extendedBy]⟩
  have step := next_of_admits opens.blank admits s.position s.faults
  have whole : s.rest =
      (source.take quote).drop s.position ++ ('"' :: raw ++ ['"']) ++ after := by
    rw [stands.rest_eq, opens.drop_eq, content]
    simp
  rw [← whole, opens.position_eq] at step
  simpa [Form.kind, Form.literal, Form.faults, Nat.add_assoc, Nat.add_comm 1] using step

theorem next_of_open {s : Scanner} {source raw value : Text} {quote : Nat}
    (stands : s.StandsIn source) (opens : OpensAt source s.position quote)
    (content : source.drop (quote + 1) = raw) (units : Units [] raw value) :
    s.next = (⟨.string, value, quote⟩,
      ⟨[], source.length, s.faults ++ [.unterminatedString ⟨quote, source.length⟩]⟩) := by
  have admits : (Form.openString value).Admits ('"' :: raw) [] := ⟨⟨raw, rfl, units⟩, by simp⟩
  have step := next_of_admits opens.blank admits s.position s.faults
  have whole : s.rest = (source.take quote).drop s.position ++ ('"' :: raw) ++ [] := by
    rw [stands.rest_eq, opens.drop_eq, content, List.append_nil]
  have length : quote + ('"' :: raw).length = source.length := by
    obtain ⟨inside, -⟩ := List.getElem?_eq_some_iff.mp opens.found
    rw [← content, List.length_cons, List.length_drop]
    omega
  rw [← whole, opens.position_eq, Form.faults, length] at step
  exact step

end Scanner

-- Each pass has a list of escapes of its own. As the lists agree, the quote at which the first pass
-- stops is told by the parity of backslashes, and what the second makes of the text by one decoder.
theorem string_closes_at_first_even_quote (source : Text) :
    (∀ raw, unescape raw = decodeEscapes raw) ∧
    (∀ c behind, c ∈ escapable ↔
      ∃ value, unescape ('\\' :: c :: behind) = value :: unescape behind) ∧
    (∀ requests, let served := (Scanner.ofText source).serve requests
      served.2.StandsIn source ∧
        (Cursor.ofText source).serve? requests = some (served.1, Cursor.holding source served.2)) ∧
    ∀ (s : Scanner) (quote : Nat), s.StandsIn source → OpensAt source s.position quote →
      let content := source.drop (quote + 1)
      (∃ stop, IsLeast {stop | ClosesAt source quote stop} stop ∧
        let raw := (source.take stop).drop (quote + 1)
        let after : Scanner := ⟨source.drop (stop + 1), stop + 1, s.faults⟩
        spanContent content = (raw, source.drop stop) ∧
        s.next = (⟨.string, decodeEscapes raw, quote⟩, after) ∧
        (Cursor.holding source s).next? =
          some (⟨.string, decodeEscapes raw, quote⟩, Cursor.holding source after) ∧
        Units ['"'] raw (decodeEscapes raw)) ∨
      (∀ stop, ¬ ClosesAt source quote stop) ∧
        let after : Scanner :=
          ⟨[], source.length, s.faults ++ [.unterminatedString ⟨quote, source.length⟩]⟩
        spanContent content = (content, []) ∧
        s.next = (⟨.string, decodeEscapes content, quote⟩, after) ∧
        (Cursor.holding source s).next? =
          some (⟨.string, decodeEscapes content, quote⟩, Cursor.holding source after) ∧
        Units [] content (decodeEscapes content) := by
  refine ⟨unescape_eq_decodeEscapes, fun c behind => mem_escapable_iff_decoded, ?_, ?_⟩
  · intro requests
    have start : (Scanner.ofText source).StandsIn source := ⟨[], rfl, rfl⟩
    exact ⟨Scanner.standsIn_serve source requests, Cursor.serve?_holding start requests⟩
  intro s quote stands opens content
  have followed := Cursor.next?_holding stands
  obtain ⟨raw, ⟨units, spanned, whole⟩ | ⟨after, units, spanned, whole⟩⟩ := exists_content content
  next =>
    right
    rw [unescape_eq_decodeEscapes] at units
    have step := Scanner.next_of_open stands opens whole units
    rw [step] at followed
    rw [whole]
    rw [whole] at spanned
    exact ⟨not_closesAt whole units.skips, spanned, step, followed, units⟩
  next =>
    left
    rw [unescape_eq_decodeEscapes] at units
    have whole : source.drop (quote + 1) = raw ++ '"' :: after := whole
    have behind : Units ('"' :: after) raw (decodeEscapes raw) := units.congr rfl
    have inside : (source.take (quote + 1 + raw.length)).drop (quote + 1) = raw := by
      rw [List.drop_take, whole, Nat.add_sub_cancel_left, List.take_left]
    have closing : source.drop (quote + 1 + raw.length) = '"' :: after := by
      rw [← List.drop_drop, whole, List.drop_left]
    have left : source.drop (quote + 1 + raw.length + 1) = after := by
      rw [← List.drop_drop, closing, List.drop_one, List.tail_cons]
    have step := Scanner.next_of_closed stands opens whole units
    rw [step] at followed
    refine ⟨quote + 1 + raw.length, isLeast_closesAt whole behind.skips, ?_⟩
    rw [inside, left, closing]
    exact ⟨spanned, step, followed, units⟩

theorem string_closes_at_first_even_quote_backslashes :
    let closed : Text := " \"\\\\\\\"\\q\\\\\"!".toList
    let unclosed : Text := ['"', '\\', '"']
    OpensAt closed 0 1 ∧
      (Scanner.ofText closed).next =
        (⟨.string, ['\\', '"', '\\', 'q', '\\'], 1⟩, ⟨['!'], 11, []⟩) ∧
      (Cursor.ofText closed).next? =
        some (⟨.string, ['\\', '"', '\\', 'q', '\\'], 1⟩, ⟨closed, 11, some '!', []⟩) ∧
      OpensAt unclosed 0 0 ∧
      (Scanner.ofText unclosed).next =
        (⟨.string, ['"'], 0⟩, ⟨[], 3, [.unterminatedString ⟨0, 3⟩]⟩) ∧
      (Cursor.ofText unclosed).next? =
        some (⟨.string, ['"'], 0⟩, ⟨unclosed, 3, none, [.unterminatedString ⟨0, 3⟩]⟩) := by
  intro closed unclosed
  obtain ⟨-, -, stands, ends⟩ := string_closes_at_first_even_quote closed
  obtain ⟨-, -, stands', ends'⟩ := string_closes_at_first_even_quote unclosed
  have opens : OpensAt closed 0 1 := ⟨by decide, by simp [closed, IsBlankRun, isBlank], rfl⟩
  have opens' : OpensAt unclosed 0 0 := ⟨le_rfl, by simp [IsBlankRun], rfl⟩
  have closes : ClosesAt closed 1 10 := by decide
  have first : ∀ stop < 10, ¬ ClosesAt closed 1 stop := by decide
  have never : ∀ stop < 3, ¬ ClosesAt unclosed 0 stop := by decide
  have found : (Scanner.ofText closed).next =
      (⟨.string, ['\\', '"', '\\', 'q', '\\'], 1⟩, ⟨['!'], 11, []⟩) ∧
      (Cursor.ofText closed).next? =
        some (⟨.string, ['\\', '"', '\\', 'q', '\\'], 1⟩, ⟨closed, 11, some '!', []⟩) := by
    rcases ends _ 1 (stands []).1 opens with ⟨stop, least, -, step, followed, -⟩ | ⟨none, -⟩
    · have below := least.2 closes
      have above : ¬ stop < 10 := fun less => first stop less least.1
      obtain rfl : stop = 10 := by omega
      exact ⟨step, followed⟩
    · exact absurd closes (none 10)
  have lost : (Scanner.ofText unclosed).next =
      (⟨.string, ['"'], 0⟩, ⟨[], 3, [.unterminatedString ⟨0, 3⟩]⟩) ∧
      (Cursor.ofText unclosed).next? =
        some (⟨.string, ['"'], 0⟩, ⟨unclosed, 3, none, [.unterminatedString ⟨0, 3⟩]⟩) := by
    rcases ends' _ 0 (stands' []).1 opens' with ⟨stop, least, -⟩ | ⟨-, -, step, followed, -⟩
    · obtain ⟨inside, -⟩ := List.getElem?_eq_some_iff.mp least.1.2.1
      exact absurd least.1 (never stop inside)
    · exact ⟨step, followed⟩
  exact ⟨opens, found.1, found.2, opens', lost.1, lost.2⟩

end Sprout

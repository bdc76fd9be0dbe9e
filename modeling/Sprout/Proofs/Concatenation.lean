import Mathlib.Data.List.Basic
import Sprout.Proofs.Diagnostics

set_option autoImplicit false

namespace Sprout

def Token.shift (n : Nat) (t : Token) : Token := { t with position := t.position + n }

def Diagnostic.shift (n : Nat) (d : Diagnostic) : Diagnostic :=
  { d with span := ⟨d.span.start + n, d.span.stop + n⟩ }

namespace Form

theorem diagnostics_shift (n start : Nat) (lexeme : Text) (form : Form) :
    form.diagnostics (start + n) lexeme =
      (form.diagnostics start lexeme).map (Diagnostic.shift n) := by
  cases form with
  | stray =>
    simp [diagnostics, Diagnostic.shift, Diagnostic.illegalCharacter, Span.single,
      Nat.add_right_comm]
  | openString value =>
    simp [diagnostics, faults, Diagnostic.shift, Diagnostic.unterminatedString,
      Nat.add_right_comm]
  | _ => rfl

theorem extendedBy_iff (form : Form) (start : Nat) (lexeme : Text) (c : Char) :
    form.extendedBy c = true ↔
      form.faults start lexeme ≠ [] ∨ form.kind.extendedBy c = true := by
  cases form <;> simp [extendedBy, faults]

theorem Admits.after_eq_nil_of_faults {form : Form} {lexeme after : Text}
    (admits : form.Admits lexeme after) {start : Nat} (faulty : form.faults start lexeme ≠ []) :
    after = [] := by
  cases form with
  | openString value => exact admits.after_eq_nil
  | _ => exact absurd rfl faulty

theorem literal_eq_lexeme {form : Form} {c : Char} (more : form.kind.extendedBy c = true)
    (lexeme : Text) : form.literal lexeme = lexeme := by
  cases form with
  | closedString value => simp [kind, Kind.extendedBy] at more
  | openString value => simp [kind, Kind.extendedBy] at more
  | _ => rfl

end Form

namespace Decomposition

def prepend (run : Text) : Decomposition → Decomposition
  | stop blanks => stop (run ++ blanks)
  | item blanks lexeme form rest => item (run ++ blanks) lexeme form rest

def append : Decomposition → Decomposition → Decomposition
  | stop blanks, e => e.prepend blanks
  | item blanks lexeme form rest, e => item blanks lexeme form (rest.append e)

def MergesWith (c : Char) : Decomposition → Prop
  | stop _ => False
  | item _ _ form rest => (rest = stop [] ∧ form.extendedBy c = true) ∨ rest.MergesWith c

theorem text_prepend (run : Text) (d : Decomposition) : (d.prepend run).text = run ++ d.text := by
  cases d <;> simp [prepend, text]

theorem text_append (d e : Decomposition) : (d.append e).text = d.text ++ e.text := by
  induction d with
  | stop blanks => exact text_prepend blanks e
  | item blanks lexeme form rest ih => simp [append, text, ih]

theorem valid_prepend {run : Text} {d : Decomposition} (blank : IsBlankRun run)
    (valid : d.Valid) : (d.prepend run).Valid := by
  have join {blanks : Text} (blank' : IsBlankRun blanks) : IsBlankRun (run ++ blanks) := by
    intro c member
    rcases List.mem_append.mp member with member | member
    · exact blank c member
    · exact blank' c member
  cases d with
  | stop blanks => exact join valid
  | item blanks lexeme form rest => exact ⟨join valid.1, valid.2⟩

theorem valid_append {d e : Decomposition} (valid : d.Valid) (valid' : e.Valid)
    (apart : ∀ c, e.text.head? = some c → ¬ d.MergesWith c) : (d.append e).Valid := by
  induction d with
  | stop blanks => exact valid_prepend valid valid'
  | item blanks lexeme form rest ih =>
    obtain ⟨blank, admits, valid⟩ := valid
    refine ⟨blank, ⟨admits.1, ?_⟩, ih valid fun c next merges => apart c next (.inr merges)⟩
    intro c next
    rw [text_append] at next
    by_cases empty : rest.text = []
    next =>
      rw [empty] at next
      by_contra more
      exact apart c next (.inl ⟨eq_stop_of_text_eq_nil valid empty, by simpa using more⟩)
    next =>
      rw [List.head?_append_of_ne_nil _ empty] at next
      exact admits.2 c next

theorem tokens_prepend (run : Text) (d : Decomposition) (start : Nat) :
    (d.prepend run).tokens start = d.tokens (start + run.length) := by
  cases d <;> simp [prepend, tokens_stop, tokens_item, Nat.add_assoc]

theorem tokens_append (d e : Decomposition) (start : Nat) :
    (d.append e).tokens start = d.lexemeTokens start ++ e.tokens (start + d.text.length) := by
  induction d generalizing start with
  | stop blanks => exact tokens_prepend blanks e start
  | item blanks lexeme form rest ih =>
    simp [append, tokens_item, lexemeTokens, text, ih, Nat.add_assoc]

theorem tokens_shift (n start : Nat) (d : Decomposition) :
    d.tokens (start + n) = (d.tokens start).map (Token.shift n) := by
  induction d generalizing start with
  | stop blanks => simp [tokens_stop, Token.shift, Nat.add_right_comm]
  | item blanks lexeme form rest ih =>
    simp [tokens_item, Token.shift, Nat.add_right_comm _ n, ih]

theorem diagnostics_append (d e : Decomposition) (start : Nat) :
    (d.append e).diagnostics start =
      d.diagnostics start ++ e.diagnostics (start + d.text.length) := by
  induction d generalizing start with
  | stop blanks =>
    cases e <;> simp [append, prepend, diagnostics, text, Nat.add_assoc]
  | item blanks lexeme form rest ih =>
    simp [append, diagnostics, text, ih, Nat.add_assoc]

theorem diagnostics_shift (n start : Nat) (d : Decomposition) :
    d.diagnostics (start + n) = (d.diagnostics start).map (Diagnostic.shift n) := by
  induction d generalizing start with
  | stop blanks => rfl
  | item blanks lexeme form rest ih =>
    simp [diagnostics, Nat.add_right_comm _ n, Form.diagnostics_shift, ih]

theorem mergesWith_iff {d : Decomposition} (valid : d.Valid) (start : Nat) (c : Char) :
    d.MergesWith c ↔
      d.faults start ≠ [] ∨
        ∃ t, (d.lexemeTokens start).getLast? = some t ∧
          t.position + t.literal.length = start + d.text.length ∧
          t.kind.extendedBy c = true := by
  induction d generalizing start with
  | stop blanks => simp [MergesWith, faults, lexemeTokens]
  | item blanks lexeme form rest ih =>
    obtain ⟨blank, admits, valid⟩ := valid
    have later := ih valid (start + blanks.length + lexeme.length)
    cases rest with
    | stop blanks' =>
      have total : start + (item blanks lexeme form (stop blanks')).text.length =
          start + blanks.length + lexeme.length + blanks'.length := by
        simp only [text, List.length_append]
        omega
      rw [total]
      simp only [MergesWith, faults, lexemeTokens, stop.injEq, or_false, List.append_nil,
        List.getLast?_singleton, Option.some.injEq, exists_eq_left',
        form.extendedBy_iff (start + blanks.length) lexeme]
      constructor
      · rintro ⟨rfl, faulty | more⟩
        · exact .inl faulty
        · exact .inr ⟨by simp [Form.literal_eq_lexeme more], more⟩
      · rintro (faulty | ⟨ends, more⟩)
        · exact ⟨admits.after_eq_nil_of_faults faulty, .inl faulty⟩
        · rw [Form.literal_eq_lexeme more] at ends
          exact ⟨List.length_eq_zero_iff.mp (by omega), .inr more⟩
    | item blanks' lexeme' form' rest' =>
      -- Behind the first lexeme there is another, so all three are those of the rest.
      have noFault : form.faults (start + blanks.length) lexeme = [] := by
        by_contra faulty
        have last := eq_stop_of_text_eq_nil valid (admits.after_eq_nil_of_faults faulty)
        simp at last
      have notStop : item blanks' lexeme' form' rest' ≠ stop [] := by simp
      have more (n : Nat) : (item blanks' lexeme' form' rest').lexemeTokens n ≠ [] := by
        simp [lexemeTokens]
      generalize item blanks' lexeme' form' rest' = rest at *
      have total : start + (item blanks lexeme form rest).text.length =
          start + blanks.length + lexeme.length + rest.text.length := by
        simp only [text, List.length_append]
        omega
      rw [MergesWith, faults, lexemeTokens, noFault, total, List.nil_append,
        List.getLast?_cons_of_ne_nil (more _), ← later]
      simp [notStop]

theorem le_position_of_mem_tokens {d : Decomposition} {start : Nat} {t : Token}
    (member : t ∈ d.tokens start) : start ≤ t.position := by
  induction d generalizing start with
  | stop blanks =>
    rw [tokens_stop, List.mem_singleton] at member
    simp [member]
  | item blanks lexeme form rest ih =>
    rw [tokens_item, List.mem_cons] at member
    rcases member with rfl | member
    · exact Nat.le_add_right ..
    · have := ih member
      omega

theorem head_position_of_solid {d : Decomposition} (valid : d.Valid) {c : Char}
    (next : d.text.head? = some c) (solid : isBlank c = false) (start : Nat) :
    ∃ t rest, d.tokens start = t :: rest ∧ t.position = start := by
  cases d with
  | stop blanks =>
    have member : c ∈ blanks := List.mem_of_mem_head? next
    simp [valid c member] at solid
  | item blanks lexeme form rest =>
    cases blanks with
    | nil => exact ⟨_, _, tokens_item .., by simp⟩
    | cons b blanks =>
      have same : b = c := by simpa [text] using next
      simp [← same, valid.1 b (List.mem_cons_self ..)] at solid

end Decomposition

-- What follows changes nothing in the units, unless it completes an escape with the last one.
theorem Units.extend {raw value after : Text} (units : Units [] raw value)
    (other : ∀ e ∈ escapes, after.head? ≠ some e.1) : Units after raw value := by
  induction units with
  | none => exact .none
  | @plain c raw value notQuote single more ih =>
    refine .plain notQuote ?_ ih
    intro backslash e known
    cases raw with
    | nil => exact other e known
    | cons d raw => exact single backslash e known
  | escape known more ih => exact .escape known ih

theorem Units.ne_closed {raw value raw' value' : Text} (units : Units [] raw value)
    (units' : Units ['"'] raw' value') (after : Text) : raw ≠ raw' ++ '"' :: after := by
  intro same
  have units' : Units ('"' :: after) raw' value' := units'.congr rfl
  have open' := units.spanContent_append
  rw [List.append_nil, same, units'.spanContent_append] at open'
  simp [spanContent] at open'

namespace Form

variable {value lexeme lexeme' after' b : Text} {form' : Form}

theorem openString_lexeme_grows (shape : (openString value).HasShape lexeme)
    (admits' : form'.Admits lexeme' after') (isString : form'.kind = .string)
    (same : lexeme' ++ after' = lexeme ++ b) (more : b ≠ []) :
    lexeme.length < lexeme'.length := by
  obtain ⟨raw, rfl, units⟩ := shape
  cases form' with
  | closedString value' =>
    obtain ⟨raw', rfl, units'⟩ := admits'.1
    rcases List.append_eq_append_iff.mp same with ⟨left, whole, -⟩ | ⟨left, whole, -⟩
    next => exact absurd (by simpa using whole) (units.ne_closed units' left)
    next =>
      cases left with
      | nil => exact absurd (by simpa using whole.symm) (units.ne_closed units' [])
      | cons d left => simp [whole]
  | openString value' =>
    have last := admits'.after_eq_nil
    rw [last, List.append_nil] at same
    have positive := List.length_pos_iff.mpr more
    simp only [same, List.length_append]
    omega
  | _ => simp [kind] at isString

theorem openString_value_grows {c : Char} (shape : (openString value).HasShape lexeme)
    (admits' : form'.Admits lexeme' after') (same : lexeme' ++ after' = lexeme ++ b)
    (next : b.head? = some c) (blank : isBlank c = true) : form'.literal lexeme' ≠ value := by
  obtain ⟨raw, rfl, units⟩ := shape
  obtain ⟨d, rest, x, rfl, -, read, text, rfl⟩ := read_of_admits admits'
  simp only [List.cons_append, List.cons.injEq] at same
  obtain ⟨rfl, sameRest⟩ := same
  cases b with
  | nil => simp at next
  | cons d more =>
    obtain rfl : d = c := by simpa using next
    have noEscape : ∀ e ∈ escapes, (d :: more).head? ≠ some e.1 := by
      have others : ∀ e ∈ escapes, isBlank e.1 = false := by decide
      rintro e known same
      obtain rfl : d = e.1 := by simpa using same
      simp [others e known] at blank
    have notQuote : d ∉ ['"', '\\'] := not_mem_of_class (by decide) blank
    simp only [List.mem_cons, List.not_mem_nil, or_false, not_or] at notQuote
    have units := units.extend noEscape
    have found := units.spanContent_append
    rw [spanContent_plain notQuote.1 fun backslash => absurd backslash notQuote.2] at found
    have whole : x = (Lexeme.readString (raw ++ d :: more)).1 := by
      rw [← Lexeme.read_quote, ← sameRest, read]
    have literal : x.form.literal x.text = x.literal :=
      congrArg Token.literal (x.token_eq 0).symm
    have behind : Units (d :: (spanContent more).1) raw value := units.congr rfl
    rw [← text, literal, whole, Lexeme.literal_readString, found]
    show unescape (raw ++ d :: (spanContent more).1) ≠ value
    rw [behind.unescape_append, unescape_plain fun backslash => absurd backslash notQuote.2]
    simp

end Form

namespace Decomposition

theorem merge_shows {form form' : Form} {lexeme lexeme' : Text} {e rest' : Decomposition} {c : Char}
    (admits : form.Admits lexeme []) (more : form.extendedBy c = true)
    (admits' : form'.Admits lexeme' rest'.text) (valid : e.Valid)
    (same : lexeme' ++ rest'.text = lexeme ++ e.text) (next : e.text.head? = some c)
    (sameKind : form'.kind = form.kind) (sameLiteral : form'.literal lexeme' = form.literal lexeme)
    (start : Nat) : rest'.tokens (start + lexeme'.length) ≠ e.tokens (start + lexeme.length) := by
  rcases (form.extendedBy_iff start lexeme c).mp more with faulty | more
  next =>
    cases form with
    | openString value =>
      by_cases blank : isBlank c = true
      next =>
        have grown := Form.openString_value_grows admits.1 admits' same next blank
        exact absurd sameLiteral grown
      next =>
        have solid : isBlank c = false := by simpa using blank
        have nonempty : e.text ≠ [] := by
          intro empty
          simp [empty] at next
        have longer := Form.openString_lexeme_grows admits.1 admits' sameKind same nonempty
        obtain ⟨t, later, tokens, position⟩ :=
          head_position_of_solid valid next solid (start + lexeme.length)
        intro sameTokens
        rw [tokens] at sameTokens
        have member : t ∈ rest'.tokens (start + lexeme'.length) := by
          rw [sameTokens]
          exact List.mem_cons_self ..
        have bound := le_position_of_mem_tokens member
        omega
    | _ => exact absurd rfl faulty
  next =>
    have more' : form'.kind.extendedBy c = true := sameKind ▸ more
    rw [Form.literal_eq_lexeme more, Form.literal_eq_lexeme more'] at sameLiteral
    rw [sameLiteral] at same
    have sameRest := List.append_cancel_left same
    have stopped := admits'.2 c (by rw [sameRest]; exact next)
    rw [(form'.extendedBy_iff start lexeme' c).mpr (.inr more')] at stopped
    simp at stopped

theorem MergesWith.text_ne_nil {d : Decomposition} (valid : d.Valid) {c : Char}
    (merges : d.MergesWith c) : d.text ≠ [] := by
  intro empty
  rw [eq_stop_of_text_eq_nil valid empty] at merges
  exact merges

theorem tokens_ne_of_mergesWith {d e g : Decomposition} (valid : d.Valid) (valid' : e.Valid)
    (whole : g.Valid) (same : g.text = d.text ++ e.text) {c : Char}
    (next : e.text.head? = some c) (merges : d.MergesWith c) (start : Nat) :
    g.tokens start ≠ d.lexemeTokens start ++ e.tokens (start + d.text.length) := by
  induction d generalizing g start with
  | stop blanks => exact absurd merges id
  | item blanks lexeme form rest ih =>
    obtain ⟨blank, admits, valid⟩ := valid
    rw [text, List.append_assoc] at same
    cases g with
    | stop blanks' =>
      exact absurd same.symm (admits.ne_blanks whole blanks (rest.text ++ e.text))
    | item blanks' lexeme' form' rest' =>
      obtain ⟨blank', admits', whole⟩ := whole
      obtain ⟨rfl, sameLeft⟩ := admits.blanks_unique admits' blank blank' same.symm
      intro sameTokens
      rw [tokens_item, lexemeTokens, List.cons_append] at sameTokens
      simp only [List.cons.injEq, Token.mk.injEq, and_true] at sameTokens
      obtain ⟨⟨sameKind, sameLiteral⟩, sameTail⟩ := sameTokens
      have total : start + (item blanks lexeme form rest).text.length =
          start + blanks.length + lexeme.length + rest.text.length := by
        simp only [text, List.length_append]
        omega
      rw [total] at sameTail
      rcases merges with ⟨rfl, more⟩ | merges
      next =>
        exact merge_shows admits more admits' valid' sameLeft.symm next sameKind sameLiteral _
          sameTail
      next =>
        -- The first lexeme of the two is the same, as the character behind it is.
        have admitsWhole : form.Admits lexeme (rest.text ++ e.text) := by
          refine ⟨admits.1, ?_⟩
          rw [List.head?_append_of_ne_nil _ (merges.text_ne_nil valid)]
          exact admits.2
        obtain ⟨rfl, rfl, sameRest⟩ := admits'.unique admitsWhole sameLeft.symm
        exact ih valid whole sameRest merges _ sameTail

end Decomposition

-- For the kinds that can be read on the literal is the lexeme, so the token ends where it does.
def Separable (a b : Text) : Prop :=
  b = [] ∨
    (Scanner.ofText a).drain.2.faults = [] ∧
      ∀ t, (withoutEof (tokenize a)).getLast? = some t →
        t.position + t.literal.length = a.length →
        ∀ c, b.head? = some c → t.kind.extendedBy c = false

theorem separable_iff {d : Decomposition} {a : Text} (cuts : d.Cuts a) (b : Text) :
    Separable a b ↔ ∀ c, b.head? = some c → ¬ d.MergesWith c := by
  rw [Separable, tokenize_eq_tokens cuts, d.withoutEof_tokens, drain_faults_eq cuts]
  cases b with
  | nil => simp
  | cons c rest =>
    have merges := d.mergesWith_iff cuts.1 0 c
    rw [Nat.zero_add, cuts.2] at merges
    simp [merges]

theorem tokenize_append_iff_separable (a b : Text) :
    (tokenize (a ++ b) =
        withoutEof (tokenize a) ++ (tokenize b).map (Token.shift a.length) ↔ Separable a b) ∧
      (Separable a b →
        (scan (a ++ b)).diagnostics =
          (scan a).diagnostics ++ (scan b).diagnostics.map (Diagnostic.shift a.length)) := by
  obtain ⟨d, cuts⟩ := Decomposition.exists_cuts a
  obtain ⟨e, cuts'⟩ := Decomposition.exists_cuts b
  rw [separable_iff cuts b]
  have joined (apart : ∀ c, b.head? = some c → ¬ d.MergesWith c) :
      (d.append e).Cuts (a ++ b) := by
    obtain ⟨valid, rfl⟩ := cuts
    obtain ⟨valid', rfl⟩ := cuts'
    exact ⟨Decomposition.valid_append valid valid' apart, d.text_append e⟩
  have split : withoutEof (tokenize a) ++ (tokenize b).map (Token.shift a.length) =
      d.lexemeTokens 0 ++ e.tokens (0 + d.text.length) := by
    rw [tokenize_eq_tokens cuts, tokenize_eq_tokens cuts', d.withoutEof_tokens, cuts.2,
      e.tokens_shift]
  constructor
  · rw [split]
    constructor
    · intro same c next merges
      obtain ⟨g, whole⟩ := Decomposition.exists_cuts (a ++ b)
      rw [tokenize_eq_tokens whole] at same
      obtain ⟨valid, rfl⟩ := cuts
      obtain ⟨valid', rfl⟩ := cuts'
      exact Decomposition.tokens_ne_of_mergesWith valid valid' whole.1 whole.2 next merges 0 same
    · intro apart
      rw [tokenize_eq_tokens (joined apart), d.tokens_append]
  · intro apart
    rw [scan_diagnostics (joined apart), scan_diagnostics cuts, scan_diagnostics cuts',
      d.diagnostics_append, cuts.2, e.diagnostics_shift]

theorem tokenize_append_iff_separable_assign :
    (Separable ['='] [' ', '='] ∧
        tokenize ['=', ' ', '='] =
          withoutEof (tokenize ['=']) ++ (tokenize [' ', '=']).map (Token.shift 1)) ∧
      ¬ Separable ['='] ['='] ∧
        tokenize ['=', '='] ≠
          withoutEof (tokenize ['=']) ++ (tokenize ['=']).map (Token.shift 1) := by
  have cuts : (Decomposition.item [] ['='] (.symbol .assign) (.stop [])).Cuts ['='] := by
    refine ⟨⟨?_, ⟨rfl, ?_⟩, ?_⟩, rfl⟩ <;> simp [Decomposition.Valid, Decomposition.text, IsBlankRun]
  have apart : Separable ['='] [' ', '='] := by
    rw [separable_iff cuts]
    simp [Decomposition.MergesWith, Form.extendedBy, Form.kind, Kind.extendedBy]
  have merged : ¬ Separable ['='] ['='] := by
    rw [separable_iff cuts]
    simp [Decomposition.MergesWith, Form.extendedBy, Form.kind, Kind.extendedBy]
  refine ⟨⟨apart, (tokenize_append_iff_separable ['='] [' ', '=']).1.mpr apart⟩, merged, ?_⟩
  intro same
  exact merged ((tokenize_append_iff_separable ['='] ['=']).1.mp same)

end Sprout

import Sprout.Proofs.Concatenation

set_option autoImplicit false

namespace Sprout

namespace Form.Admits

variable {form : Form} {lexeme after : Text}

theorem of_append {more : Text} (admits : form.Admits lexeme (after ++ more)) :
    form.Admits lexeme after := by
  refine ⟨admits.1, ?_⟩
  intro c next
  exact admits.2 c (by simp [List.head?_append, next])

theorem eq_stray {c : Char} {rest : Text} (admits : form.Admits (c :: rest) after)
    (stray : isStray c = true) : form = .stray ∧ rest = [] := by
  have single : Form.stray.Admits [c] (rest ++ after) := ⟨⟨c, rfl, stray⟩, fun _ _ => rfl⟩
  obtain ⟨same, sameForm, -⟩ := admits.unique single rfl
  exact ⟨sameForm, (List.cons.inj same).2⟩

theorem solid_of_mem (admits : form.Admits lexeme after) (noString : form.kind ≠ .string) {c : Char}
    (member : c ∈ lexeme) : isBlank c = false := by
  cases form with
  | keyword k =>
    obtain rfl := admits.1
    obtain ⟨d, rest, same, isWord⟩ := k.isWord_word
    exact not_isBlank_of_isWordPart (isWord.isWordPart (same ▸ member))
  | ident => exact not_isBlank_of_isWordPart (admits.1.1.isWordPart member)
  | number => exact not_isBlank_of_isWordPart (isWordPart_of_isDigit (admits.1.2 c member))
  | symbol s =>
    obtain rfl := admits.1
    exact not_isBlank_of_mark (s.text_subset_marks member)
  | closedString value => exact absurd rfl noString
  | openString value => exact absurd rfl noString
  | stray =>
    obtain ⟨d, rfl, stray⟩ := admits.1
    obtain rfl := List.mem_singleton.mp member
    exact (isStray_iff.mp stray).1

theorem solid_of_last (admits : form.Admits lexeme after)
    (closed : ∀ value, form ≠ .openString value) {c : Char} (last : lexeme.getLast? = some c) :
    isBlank c = false := by
  cases form with
  | closedString value =>
    obtain ⟨raw, rfl, -⟩ := admits.1
    rw [List.getLast?_concat] at last
    obtain rfl := Option.some.inj last
    decide
  | openString value => exact absurd rfl (closed value)
  | _ => exact admits.solid_of_mem (by simp [Form.kind]) (List.mem_of_getLast? last)

end Form.Admits

namespace Decomposition

def lexemes : Decomposition → List (Form × Text)
  | stop _ => []
  | item _ lexeme form rest => (form, lexeme) :: rest.lexemes

theorem lexemes_append (d e : Decomposition) :
    (d.append e).lexemes = d.lexemes ++ e.lexemes := by
  induction d with
  | stop blanks => cases e <;> rfl
  | item blanks lexeme form rest ih => simp [append, lexemes, ih]

theorem admits_of_mem_lexemes {d : Decomposition} (valid : d.Valid) (start : Nat)
    {x : Form × Text} (member : x ∈ d.lexemes) :
    ∃ after position, x.1.Admits x.2 after ∧
      x.1.diagnostics position x.2 ⊆ d.diagnostics start := by
  induction d generalizing start with
  | stop blanks => exact absurd member List.not_mem_nil
  | item blanks lexeme form rest ih =>
    obtain ⟨-, admits, valid⟩ := valid
    rcases List.mem_cons.mp member with rfl | member
    next => exact ⟨_, _, admits, List.subset_append_left ..⟩
    next =>
      obtain ⟨after, position, admits, found⟩ :=
        ih valid (start + blanks.length + lexeme.length) member
      exact ⟨after, position, admits, List.subset_append_of_subset_right _ found⟩

def Splits (g : Decomposition) (a b : Text) : Prop :=
  ∃ d e : Decomposition, d.Cuts a ∧ e.Cuts b ∧ g = d.append e

variable {a b left lexeme blanks more : Text} {form : Form} {rest : Decomposition}

theorem splits_before_lexeme (valid : (item (a ++ left) lexeme form rest).Valid) :
    (item (a ++ left) lexeme form rest).Splits a (left ++ (lexeme ++ rest.text)) := by
  obtain ⟨blank, admits, valid⟩ := valid
  have blank := List.forall_mem_append.mp blank
  refine ⟨stop a, item left lexeme form rest, ⟨blank.1, rfl⟩, ⟨⟨blank.2, admits, valid⟩, ?_⟩, rfl⟩
  rw [text, List.append_assoc]

theorem Splits.behind_lexeme (valid : (item blanks lexeme form rest).Valid)
    (splits : rest.Splits more b) :
    (item blanks lexeme form rest).Splits (blanks ++ (lexeme ++ more)) b := by
  obtain ⟨d, e, ⟨valid', same⟩, cuts, rfl⟩ := splits
  obtain ⟨blank, admits, -⟩ := valid
  rw [text_append] at admits
  refine ⟨item blanks lexeme form d, e, ⟨⟨blank, admits.of_append, valid'⟩, ?_⟩, cuts, rfl⟩
  rw [text, same, List.append_assoc]

theorem splits_of_apart {g : Decomposition} (valid : g.Valid) (same : g.text = a ++ b)
    (apart : ∀ x ∈ g.lexemes, ∀ left right, x.2 = left ++ right → left <:+ a → right <+: b →
      left = [] ∨ right = []) : g.Splits a b := by
  induction g generalizing a with
  | stop blanks =>
    obtain rfl : blanks = a ++ b := same
    have blank := List.forall_mem_append.mp valid
    exact ⟨stop a, stop b, ⟨blank.1, rfl⟩, ⟨blank.2, rfl⟩, rfl⟩
  | item blanks lexeme form rest ih =>
    have later {more : Text} (whole : blanks ++ (lexeme ++ more) = a)
        (left : rest.text = more ++ b) : (item blanks lexeme form rest).Splits a b := by
      subst whole
      refine .behind_lexeme valid (ih valid.2.2 left ?_)
      intro x member front back parts ends
      have longer : more <:+ blanks ++ (lexeme ++ more) := ⟨blanks ++ lexeme, by simp⟩
      exact apart x (List.mem_cons_of_mem _ member) front back parts (ends.trans longer)
    rw [text, List.append_assoc] at same
    rcases List.append_eq_append_iff.mp same with ⟨first, whole, same⟩ | ⟨left, rfl, rfl⟩
    next =>
      rcases List.append_eq_append_iff.mp same with ⟨more, rfl, left⟩ | ⟨last, parts, left⟩
      next => exact later whole.symm left
      next =>
        -- The place is in the lexeme, so at one of its ends.
        have ends : first <:+ a := ⟨blanks, whole.symm⟩
        have begins : last <+: b := ⟨rest.text, left.symm⟩
        rcases apart _ (List.mem_cons_self ..) first last parts ends begins with rfl | rfl
        next =>
          rw [List.append_nil] at whole
          subst whole parts left
          simpa using @splits_before_lexeme a [] _ form rest (by simpa using valid)
        next =>
          obtain rfl : lexeme = first := by simpa using parts
          exact @later [] (by rw [List.append_nil, whole]) left.symm
    next => exact splits_before_lexeme valid

theorem splits_behind_line {g : Decomposition} (valid : g.Valid) {body rest : Text}
    (same : g.text = body ++ '\n' :: rest) (flat : ∀ x ∈ g.lexemes, '\n' ∉ x.2) :
    g.Splits (body ++ ['\n']) rest := by
  apply splits_of_apart valid (by simpa using same)
  intro x member left right parts ends _
  rcases List.eq_nil_or_concat' left with empty | ⟨front, c, rfl⟩
  next => exact .inl empty
  next =>
    obtain ⟨before, whole⟩ := ends
    rw [← List.append_assoc] at whole
    obtain rfl : c = '\n' := by simpa using (List.append_inj' whole rfl).2
    exact absurd (by simp [parts]) (flat x member)

theorem splits_before_blanks {g : Decomposition} (valid : g.Valid) {body ends : Text}
    (same : g.text = body ++ ends) (blank : IsBlankRun ends) (clean : g.diagnostics 0 = []) :
    ∃ d : Decomposition, d.Cuts body ∧ g = d.append (stop ends) := by
  have apart : ∀ x ∈ g.lexemes, ∀ left right, x.2 = left ++ right → left <:+ body →
      right <+: ends → left = [] ∨ right = [] := by
    intro x member left right parts _ begins
    -- A lexeme with blanks at its end is an open string, and that would be reported.
    rcases List.eq_nil_or_concat' right with empty | ⟨front, c, rfl⟩
    next => exact .inr empty
    next =>
      obtain ⟨after, position, admits, found⟩ := admits_of_mem_lexemes valid 0 member
      rw [clean, List.subset_nil] at found
      have closed : ∀ value, x.1 ≠ .openString value := by
        intro value open'
        rw [open'] at found
        exact absurd found (by simp [Form.diagnostics, Form.faults])
      have last : x.2.getLast? = some c := by
        rw [parts, ← List.append_assoc, List.getLast?_concat]
      have solid := admits.solid_of_last closed last
      have inside : c ∈ ends := begins.subset (by simp)
      simp [blank c inside] at solid
  obtain ⟨d, e, cuts, cuts', rfl⟩ := splits_of_apart valid same apart
  have single : (stop ends).Cuts ends := ⟨blank, rfl⟩
  exact ⟨d, cuts, by rw [cuts_unique cuts' single]⟩

theorem lexemeTokens_append (d e : Decomposition) (start : Nat) :
    (d.append e).lexemeTokens start =
      d.lexemeTokens start ++ e.lexemeTokens (start + d.text.length) := by
  have whole := d.tokens_append e start
  rw [tokens, tokens, ← List.append_assoc] at whole
  exact List.append_inj_left' whole rfl

theorem lexemeTokens_shift (n start : Nat) (d : Decomposition) :
    d.lexemeTokens (start + n) = (d.lexemeTokens start).map (Token.shift n) := by
  have whole := d.tokens_shift n start
  rw [tokens, tokens, List.map_append] at whole
  exact List.append_inj_left' whole rfl

theorem lexemeTokens_eq_shift {d : Decomposition} {line : Text} (cuts : d.Cuts line)
    (start : Nat) : d.lexemeTokens start = (withoutEof (tokenize line)).map (Token.shift start) := by
  have shifted := d.lexemeTokens_shift start 0
  rwa [Nat.zero_add, ← d.withoutEof_tokens 0, ← tokenize_eq_tokens cuts] at shifted

theorem diagnostics_eq_nil_iff (d : Decomposition) (start : Nat) :
    d.diagnostics start = [] ↔ d.diagnostics 0 = [] := by
  have shifted := d.diagnostics_shift start 0
  rw [Nat.zero_add] at shifted
  rw [shifted, List.map_eq_nil_iff]

end Decomposition

end Sprout

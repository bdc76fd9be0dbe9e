import Sprout.Proofs.Reading

set_option autoImplicit false

namespace Sprout

def withoutEof (tokens : List Token) : List Token := tokens.filter fun t => !t.isEof

theorem Form.kind_ne_eof (form : Form) : form.kind ≠ .eof := by
  cases form <;> simp [kind]

theorem span_blanks {blanks : Text} (blank : IsBlankRun blanks) :
    blanks.takeWhile isBlank = blanks ∧ blanks.dropWhile isBlank = [] := by
  have ends : ∀ c, ([] : Text).head? = some c → isBlank c = false := by simp
  simpa only [List.append_nil] using span_run blank ends

theorem Form.Admits.span_blanks {blanks lexeme after : Text} {form : Form}
    (admits : form.Admits lexeme after) (blank : IsBlankRun blanks) (tail : Text) :
    (blanks ++ lexeme ++ tail).takeWhile isBlank = blanks ∧
      (blanks ++ lexeme ++ tail).dropWhile isBlank = lexeme ++ tail := by
  obtain ⟨c, rest, x, rfl, solid, -⟩ := Form.read_of_admits admits
  rw [List.append_assoc]
  exact span_run blank (by simp [solid])

theorem Form.Admits.ne_blanks {lexeme after run : Text} {form : Form}
    (admits : form.Admits lexeme after) (blank : IsBlankRun run) (blanks tail : Text) :
    blanks ++ lexeme ++ tail ≠ run := by
  obtain ⟨c, rest, x, rfl, solid, -⟩ := Form.read_of_admits admits
  rintro rfl
  simp [blank c (by simp)] at solid

theorem Form.Admits.blanks_unique {blanks blanks' lexeme lexeme' after after' tail tail' : Text}
    {form form' : Form} (first : form.Admits lexeme after) (second : form'.Admits lexeme' after')
    (blank : IsBlankRun blanks) (blank' : IsBlankRun blanks')
    (same : blanks ++ lexeme ++ tail = blanks' ++ lexeme' ++ tail') :
    blanks = blanks' ∧ lexeme ++ tail = lexeme' ++ tail' := by
  have skipped := first.span_blanks blank tail
  have skipped' := second.span_blanks blank' tail'
  rw [same] at skipped
  exact ⟨skipped.1.symm.trans skipped'.1, skipped.2.symm.trans skipped'.2⟩

-- The source decides the lexeme at its beginning, and so what is left of it.
theorem Form.Admits.unique {lexeme lexeme' after after' : Text} {form form' : Form}
    (first : form.Admits lexeme after) (second : form'.Admits lexeme' after')
    (same : lexeme ++ after = lexeme' ++ after') :
    lexeme = lexeme' ∧ form = form' ∧ after = after' := by
  obtain ⟨c, rest, x, rfl, -, read, text, rfl⟩ := Form.read_of_admits first
  obtain ⟨c', rest', x', rfl, -, read', text', rfl⟩ := Form.read_of_admits second
  simp only [List.cons_append, List.cons.injEq] at same
  obtain ⟨rfl, sameRest⟩ := same
  rw [sameRest, read'] at read
  obtain ⟨rfl, rfl⟩ := Prod.mk.inj read
  exact ⟨text.symm.trans text', rfl, rfl⟩

namespace Scanner

theorem next_of_blank {blanks : Text} (blank : IsBlankRun blanks) (start : Nat)
    (faults : List Diagnostic) :
    next ⟨blanks, start, faults⟩ =
      (⟨.eof, [], start + blanks.length⟩, ⟨[], start + blanks.length, faults⟩) := by
  obtain ⟨skipped, left⟩ := span_blanks blank
  simp [next, skipped, left]

theorem next_of_admits {blanks lexeme after : Text} {form : Form} (blank : IsBlankRun blanks)
    (admits : form.Admits lexeme after) (start : Nat) (faults : List Diagnostic) :
    next ⟨blanks ++ lexeme ++ after, start, faults⟩ =
      (⟨form.kind, form.literal lexeme, start + blanks.length⟩,
        ⟨after, start + blanks.length + lexeme.length,
          faults ++ form.faults (start + blanks.length) lexeme⟩) := by
  obtain ⟨skipped, left⟩ := admits.span_blanks blank after
  obtain ⟨c, rest, x, rfl, -, read, same, rfl⟩ := Form.read_of_admits admits
  simp only [next, skipped, left, List.cons_append, read, same, Lexeme.token_eq, Lexeme.faults_eq]

theorem drain_text {d : Decomposition} (valid : d.Valid) (start : Nat)
    (faults : List Diagnostic) :
    drain ⟨d.text, start, faults⟩ =
      (d.tokens start, ⟨[], start + d.text.length, faults ++ d.faults start⟩) := by
  induction d generalizing start faults with
  | stop blanks =>
    rw [drain, Decomposition.text, next_of_blank valid]
    simp [Token.isEof, Decomposition.tokens_stop, Decomposition.faults]
  | item blanks lexeme form rest ih =>
    obtain ⟨blank, admits, valid⟩ := valid
    have goesOn : form.kind ≠ .eof := form.kind_ne_eof
    rw [drain, Decomposition.text, next_of_admits blank admits]
    simp [Token.isEof, goesOn, ih valid, Decomposition.tokens_item, Decomposition.faults,
      Nat.add_assoc]

end Scanner

namespace Decomposition

theorem exists_cuts (source : Text) : ∃ d : Decomposition, d.Cuts source := by
  induction size : source.length using Nat.strongRecOn generalizing source with
  | ind n ih =>
    have whole := source.takeWhile_append_dropWhile (p := isBlank)
    have blank : IsBlankRun (source.takeWhile isBlank) := fun c => List.mem_takeWhile_imp
    cases left : source.dropWhile isBlank with
    | nil =>
      rw [left, List.append_nil] at whole
      exact ⟨stop (source.takeWhile isBlank), blank, whole⟩
    | cons c rest =>
      have solid : isBlank c = false := head?_afterRun (by rw [left]; rfl)
      have admits := Lexeme.admits_read solid rest
      have parts := Lexeme.text_read c rest
      have shorter : (Lexeme.read c rest).2.length < n := by
        have bound := Lexeme.length_read_le c rest
        have total := congrArg List.length whole
        simp only [left, List.length_append, List.length_cons] at total
        omega
      obtain ⟨d, valid, same⟩ := ih _ shorter _ rfl
      refine ⟨item (source.takeWhile isBlank) (Lexeme.read c rest).1.text
        (Lexeme.read c rest).1.form d, ⟨blank, same ▸ admits, valid⟩, ?_⟩
      rw [text, same, List.append_assoc, parts, ← left, whole]

theorem cuts_unique {d e : Decomposition} {source : Text} (first : d.Cuts source)
    (second : e.Cuts source) : d = e := by
  obtain ⟨valid, rfl⟩ := first
  obtain ⟨valid', same⟩ := second
  induction d generalizing e with
  | stop blanks =>
    cases e with
    | stop blanks' => exact congrArg stop same.symm
    | item blanks' lexeme' form' rest' =>
      obtain ⟨-, admits', -⟩ := valid'
      exact absurd same (admits'.ne_blanks valid blanks' rest'.text)
  | item blanks lexeme form rest ih =>
    obtain ⟨blank, admits, valid⟩ := valid
    cases e with
    | stop blanks' => exact absurd same.symm (admits.ne_blanks valid' blanks rest.text)
    | item blanks' lexeme' form' rest' =>
      obtain ⟨blank', admits', valid'⟩ := valid'
      obtain ⟨rfl, sameLeft⟩ := admits.blanks_unique admits' blank blank' same.symm
      obtain ⟨rfl, rfl, sameRest⟩ := admits.unique admits' sameLeft
      rw [ih valid valid' sameRest.symm]

theorem withoutEof_tokens (d : Decomposition) (start : Nat) :
    withoutEof (d.tokens start) = d.lexemeTokens start := by
  induction d generalizing start with
  | stop blanks => rfl
  | item blanks lexeme form rest ih =>
    have goesOn : form.kind ≠ .eof := form.kind_ne_eof
    have later := ih (start + blanks.length + lexeme.length)
    simpa [withoutEof, tokens_item, lexemeTokens, Token.isEof, goesOn] using later

end Decomposition

theorem tokenize_eq_tokens {d : Decomposition} {source : Text} (cuts : d.Cuts source) :
    tokenize source = d.tokens 0 := by
  obtain ⟨valid, rfl⟩ := cuts
  rw [tokenize, Scanner.ofText, Scanner.drain_text valid]

theorem drain_faults_eq {d : Decomposition} {source : Text} (cuts : d.Cuts source) :
    (Scanner.ofText source).drain.2.faults = d.faults 0 := by
  obtain ⟨valid, rfl⟩ := cuts
  rw [Scanner.ofText, Scanner.drain_text valid, List.nil_append]

theorem tokenize_is_longest_match (source : Text) :
    ∃ d : Decomposition, (∀ e : Decomposition, e.Cuts source ↔ e = d) ∧
      tokenize source = d.tokens 0 ∧ (Scanner.ofText source).drain.2.faults = d.faults 0 := by
  obtain ⟨d, cuts⟩ := Decomposition.exists_cuts source
  refine ⟨d, ?_, tokenize_eq_tokens cuts, drain_faults_eq cuts⟩
  intro e
  constructor
  · intro other
    exact Decomposition.cuts_unique other cuts
  · intro same
    rw [same]
    exact cuts

end Sprout

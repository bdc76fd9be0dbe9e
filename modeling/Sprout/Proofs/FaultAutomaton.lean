import Sprout.Proofs.Diagnostics

set_option autoImplicit false

namespace Sprout

/-- Outside of strings, in the string that a quote has opened, or there behind a backslash. -/
inductive FaultState where
  | outside
  | inside (quote : Nat)
  | escaped (quote : Nat)
deriving DecidableEq, Repr

namespace FaultState

def next (position : Nat) (c : Char) : FaultState → FaultState
  | outside => if c = '"' then inside position else outside
  | inside quote =>
    if c = '"' then outside
    else if c = '\\' then escaped quote
    else inside quote
  | escaped quote => inside quote

def strayAt (position : Nat) (c : Char) : Diagnostic where
  fault := .illegalCharacter
  span := ⟨position, position + 1⟩
  message := "Unexpected character: '".toList ++ Text.escapeInMessage [c] ++ "'".toList

def found (position : Nat) (c : Char) : FaultState → List Diagnostic
  | outside => if isStray c then [strayAt position c] else []
  | _ => []

def unclosed (length : Nat) : FaultState → List Diagnostic
  | outside => []
  | inside quote => [.unterminatedString ⟨quote, length⟩]
  | escaped quote => [.unterminatedString ⟨quote, length⟩]

def walk (s : FaultState) (position : Nat) : Text → List Diagnostic
  | [] => s.unclosed position
  | c :: rest => s.found position c ++ (s.next position c).walk (position + 1) rest

theorem walk_quiet {run : Text} (quiet : ∀ c ∈ run, isStray c = false ∧ c ≠ '"') (position : Nat)
    (after : Text) :
    outside.walk position (run ++ after) = outside.walk (position + run.length) after := by
  induction run generalizing position with
  | nil => rfl
  | cons c rest ih =>
    obtain ⟨noStray, notQuote⟩ := quiet c (List.mem_cons_self ..)
    have later := ih (fun d member => quiet d (List.mem_cons_of_mem c member)) (position + 1)
    have total : position + (c :: rest).length = position + 1 + rest.length := by
      simp only [List.length_cons]
      omega
    rw [total, ← later]
    simp [walk, found, next, noStray, notQuote]

-- Behind a lone backslash stands nothing that the two states tell apart.
theorem walk_escaped {quote position : Nat} {t : Text}
    (plain : ∀ c, t.head? = some c → c ≠ '"' ∧ c ≠ '\\') :
    (escaped quote).walk position t = (inside quote).walk position t := by
  cases t with
  | nil => rfl
  | cons c rest =>
    obtain ⟨notQuote, notBackslash⟩ := plain c rfl
    simp [walk, found, next, notQuote, notBackslash]

theorem walk_units {raw value after : Text} (units : Units after raw value)
    (quote position : Nat) :
    (inside quote).walk position (raw ++ after) =
      (inside quote).walk (position + raw.length) after := by
  induction units generalizing position with
  | none => rfl
  | @plain c raw value notQuote single more ih =>
    have total : position + (c :: raw).length = position + 1 + raw.length := by
      simp only [List.length_cons]
      omega
    rw [total, ← ih, List.cons_append, walk]
    by_cases backslash : c = '\\'
    next =>
      have plain : ∀ d, (raw ++ after).head? = some d → d ≠ '"' ∧ d ≠ '\\' := by
        intro d next
        constructor
        · rintro rfl
          exact single backslash ('"', '"') (by decide) next
        · rintro rfl
          exact single backslash ('\\', '\\') (by decide) next
      rw [← walk_escaped plain]
      simp [found, next, backslash]
    next => simp [found, next, notQuote, backslash]
  | @escape e raw value known more ih =>
    have total : position + ('\\' :: e.1 :: raw).length = position + 2 + raw.length := by
      simp only [List.length_cons]
      omega
    rw [total, ← ih]
    simp [walk, found, next]

theorem isStray_quote : isStray '"' = false := by decide

theorem quiet_of_isWordPart {c : Char} (part : isWordPart c = true) :
    isStray c = false ∧ c ≠ '"' := by
  have notQuote : c ∉ ['"'] := not_mem_of_class (by decide) part
  exact ⟨by simp [isStray, part], by simpa using notQuote⟩

theorem quiet_of_isBlank {c : Char} (blank : isBlank c = true) : isStray c = false ∧ c ≠ '"' := by
  have notQuote : c ∉ ['"'] := not_mem_of_class (by decide) blank
  exact ⟨by simp [isStray, blank], by simpa using notQuote⟩

theorem quiet_of_mark {c : Char} (mark : c ∈ marks) : isStray c = false ∧ c ≠ '"' := by
  have others : ∀ c ∈ marks, isStray c = false ∧ c ≠ '"' :=
    List.all_iff_forall_prop.mp (by decide)
  exact others c mark

theorem walk_lexeme {form : Form} {lexeme after : Text} (admits : form.Admits lexeme after)
    (position : Nat) :
    outside.walk position (lexeme ++ after) =
      form.diagnostics position lexeme ++ outside.walk (position + lexeme.length) after := by
  cases form with
  | keyword k =>
    obtain ⟨c, rest, same, isWord⟩ := k.isWord_word
    obtain rfl := admits.1
    rw [same]
    apply walk_quiet
    intro d member
    exact quiet_of_isWordPart (isWord.isWordPart member)
  | ident =>
    obtain ⟨isWord, -⟩ := admits.1
    apply walk_quiet
    intro d member
    exact quiet_of_isWordPart (isWord.isWordPart member)
  | number =>
    have isNumber : IsNumber lexeme := admits.1
    apply walk_quiet
    intro d member
    exact quiet_of_isWordPart (isWordPart_of_isDigit (isNumber.2 d member))
  | symbol s =>
    obtain rfl := admits.1
    apply walk_quiet
    intro d member
    exact quiet_of_mark (s.text_subset_marks member)
  | closedString value =>
    obtain ⟨raw, rfl, units⟩ := admits.1
    have units : Units ('"' :: after) raw value := units.congr rfl
    have body := walk_units units position (position + 1)
    have total : position + ('"' :: raw ++ ['"']).length = position + 1 + raw.length + 1 := by
      simp only [List.cons_append, List.length_cons, List.length_append, List.length_nil]
      omega
    rw [total]
    simp [walk, found, next, body, isStray_quote, Form.diagnostics, Form.faults]
  | openString value =>
    have last := admits.after_eq_nil
    subst last
    obtain ⟨raw, rfl, units⟩ := admits.1
    have body := walk_units units position (position + 1)
    rw [List.append_nil] at body
    have total : position + ('"' :: raw).length = position + 1 + raw.length := by
      simp only [List.length_cons]
      omega
    rw [Form.diagnostics, Form.faults, total]
    · simp [walk, found, next, body, unclosed, isStray_quote]
    · simp
  | stray =>
    obtain ⟨c, rfl, stray⟩ := admits.1
    obtain ⟨-, -, -, notQuote, -⟩ := isStray_iff.mp stray
    have emitted : outside.found position c = Form.stray.diagnostics position [c] := by
      rw [found, if_pos stray]
      rfl
    rw [List.cons_append, walk, emitted, next, if_neg notQuote]
    rfl

theorem walk_text {d : Decomposition} (valid : d.Valid) (start : Nat) :
    outside.walk start d.text = d.diagnostics start := by
  induction d generalizing start with
  | stop blanks =>
    have skipped := walk_quiet (fun c member => quiet_of_isBlank (valid c member)) start []
    rwa [List.append_nil] at skipped
  | item blanks lexeme form rest ih =>
    obtain ⟨blank, admits, valid⟩ := valid
    rw [Decomposition.text, List.append_assoc,
      walk_quiet fun c member => quiet_of_isBlank (blank c member), walk_lexeme admits, ih valid]
    rfl

end FaultState

theorem scan_diagnostics_eq_walk (source : Text) :
    (scan source).diagnostics = FaultState.outside.walk 0 source ∧
      (∀ file showTokens, (run source file showTokens).count =
        (FaultState.outside.walk 0 source).length) ∧
      (scan source).diagnostics =
        ((scan source).tokens.filter fun t => t.kind == .illegal).map
          Diagnostic.illegalCharacter ++ (Scanner.ofText source).drain.2.faults ∧
      ((Scanner.ofText source).drain.2.faults = [] ∨
        ∃ quote, (Scanner.ofText source).drain.2.faults =
          [.unterminatedString ⟨quote, source.length⟩]) ∧
      ((scan source).diagnostics.Pairwise fun a b => a.span.start < b.span.start) ∧
      OrderedWithin 0 source.length (scan source).diagnostics := by
  obtain ⟨d, cuts⟩ := Decomposition.exists_cuts source
  have automaton : (scan source).diagnostics = FaultState.outside.walk 0 source := by
    rw [scan_diagnostics cuts, ← FaultState.walk_text cuts.1, cuts.2]
  have ordered := scan_diagnostics_orderedWithin source
  refine ⟨automaton, ?_, scan_diagnostics_eq_collected source, ?_, ordered.sorted, ordered⟩
  · intro file showTokens
    exact congrArg List.length automaton
  · rw [drain_faults_eq cuts, ← cuts.2, ← Nat.zero_add d.text.length]
    exact d.faults_eq_nil_or_single cuts.1 0

end Sprout

import Sprout.Listing
import Sprout.Proofs.LongestMatch

set_option autoImplicit false

namespace Sprout

/-- Diagnostics whose spans lie one behind the other between two places, none of them empty. -/
def OrderedWithin (low high : Nat) (found : List Diagnostic) : Prop :=
  found.Pairwise (fun a b => a.span.stop ≤ b.span.start) ∧
    ∀ d ∈ found, low ≤ d.span.start ∧ d.span.start < d.span.stop ∧ d.span.stop ≤ high

theorem OrderedWithin.nil (low high : Nat) : OrderedWithin low high [] := by
  simp [OrderedWithin]

theorem OrderedWithin.mono {low low' high high' : Nat} {found : List Diagnostic}
    (ordered : OrderedWithin low high found) (lower : low' ≤ low) (higher : high ≤ high') :
    OrderedWithin low' high' found := by
  refine ⟨ordered.1, ?_⟩
  intro d member
  have bound := ordered.2 d member
  omega

theorem OrderedWithin.append {low middle high : Nat} {first last : List Diagnostic}
    (before : OrderedWithin low middle first) (after : OrderedWithin middle high last)
    (lower : low ≤ middle) (higher : middle ≤ high) :
    OrderedWithin low high (first ++ last) := by
  constructor
  · rw [List.pairwise_append]
    refine ⟨before.1, after.1, ?_⟩
    intro a memberA b memberB
    exact le_trans (before.2 a memberA).2.2 (after.2 b memberB).1
  · intro d member
    rcases List.mem_append.mp member with member | member
    · exact (before.mono le_rfl higher).2 d member
    · exact (after.mono lower le_rfl).2 d member

theorem OrderedWithin.sorted {low high : Nat} {found : List Diagnostic}
    (ordered : OrderedWithin low high found) :
    found.Pairwise fun a b => a.span.start < b.span.start := by
  apply ordered.1.imp_of_mem
  intro a b memberA _ le
  have bound := ordered.2 a memberA
  omega

namespace Form

def diagnostics (start : Nat) (lexeme : Text) : Form → List Diagnostic
  | stray => [.illegalCharacter ⟨.illegal, lexeme, start⟩]
  | form => form.faults start lexeme

theorem diagnostics_orderedWithin {form : Form} {lexeme after : Text}
    (admits : form.Admits lexeme after) (start : Nat) :
    OrderedWithin start (start + lexeme.length) (form.diagnostics start lexeme) := by
  obtain ⟨c, rest, x, rfl, -⟩ := read_of_admits admits
  cases form with
  | stray =>
    simp [diagnostics, OrderedWithin, Diagnostic.illegalCharacter, Span.single]
  | openString value =>
    simp [diagnostics, faults, OrderedWithin, Diagnostic.unterminatedString]
  | _ => exact .nil _ _

end Form

namespace Decomposition

def diagnostics : Nat → Decomposition → List Diagnostic
  | _, stop _ => []
  | start, item blanks lexeme form rest =>
    form.diagnostics (start + blanks.length) lexeme ++
      diagnostics (start + blanks.length + lexeme.length) rest

theorem diagnostics_orderedWithin {d : Decomposition} (valid : d.Valid) (start : Nat) :
    OrderedWithin start (start + d.text.length) (d.diagnostics start) := by
  induction d generalizing start with
  | stop blanks => exact .nil _ _
  | item blanks lexeme form rest ih =>
    obtain ⟨-, admits, valid⟩ := valid
    have here := form.diagnostics_orderedWithin admits (start + blanks.length)
    have later := ih valid (start + blanks.length + lexeme.length)
    refine (here.mono (by omega) le_rfl).append (later.mono le_rfl ?_) (by omega) ?_
    · simp only [text, List.length_append]
      omega
    · simp only [text, List.length_append]
      omega

theorem eq_stop_of_text_eq_nil {d : Decomposition} (valid : d.Valid) (empty : d.text = []) :
    d = stop [] := by
  cases d with
  | stop blanks => exact congrArg stop empty
  | item blanks lexeme form rest =>
    obtain ⟨-, admits, -⟩ := valid
    obtain ⟨c, more, x, rfl, -⟩ := Form.read_of_admits admits
    simp [text] at empty

theorem collected_eq_diagnostics {d : Decomposition} (valid : d.Valid) (start : Nat) :
    ((d.tokens start).filter fun t => t.kind == .illegal).map Diagnostic.illegalCharacter ++
      d.faults start = d.diagnostics start := by
  induction d generalizing start with
  | stop blanks => simp [tokens, lexemeTokens, faults, diagnostics]
  | item blanks lexeme form rest ih =>
    obtain ⟨-, admits, valid⟩ := valid
    have later := ih valid (start + blanks.length + lexeme.length)
    rw [tokens_item, faults, diagnostics]
    cases form with
    | openString value =>
      have last := eq_stop_of_text_eq_nil valid admits.after_eq_nil
      subst last
      simp [Form.kind, Form.diagnostics, tokens_stop, faults, diagnostics]
    | stray => simpa [Form.kind, Form.literal, Form.faults, Form.diagnostics] using later
    | _ => simpa [Form.kind, Form.faults, Form.diagnostics] using later

theorem faults_eq_nil_or_last {d : Decomposition} (valid : d.Valid) (start : Nat) :
    d.faults start = [] ∨
      ∃ t, (d.lexemeTokens start).getLast? = some t ∧ t.kind = .string ∧
        d.faults start = [.unterminatedString ⟨t.position, start + d.text.length⟩] := by
  induction d generalizing start with
  | stop blanks => exact .inl rfl
  | item blanks lexeme form rest ih =>
    obtain ⟨-, admits, valid⟩ := valid
    have later := ih valid (start + blanks.length + lexeme.length)
    rw [faults, lexemeTokens]
    cases form with
    | openString value =>
      have last := eq_stop_of_text_eq_nil valid admits.after_eq_nil
      subst last
      refine .inr ⟨⟨.string, value, start + blanks.length⟩, rfl, rfl, ?_⟩
      simp [Form.faults, faults, text, Nat.add_assoc]
    | _ =>
      rcases later with none | ⟨t, last, string, same⟩
      · exact .inl none
      · refine .inr ⟨t, by rw [List.getLast?_cons, last, Option.getD_some], string, ?_⟩
        simpa [Form.faults, text, Nat.add_assoc] using same

theorem faults_eq_nil_or_single {d : Decomposition} (valid : d.Valid) (start : Nat) :
    d.faults start = [] ∨
      ∃ quote, d.faults start = [.unterminatedString ⟨quote, start + d.text.length⟩] := by
  rcases d.faults_eq_nil_or_last valid start with none | ⟨t, -, -, same⟩
  · exact .inl none
  · exact .inr ⟨t.position, same⟩

end Decomposition

theorem scan_diagnostics {d : Decomposition} {source : Text} (cuts : d.Cuts source) :
    (scan source).diagnostics = d.diagnostics 0 := by
  obtain ⟨valid, rfl⟩ := cuts
  have sorted := (d.diagnostics_orderedWithin valid 0).sorted
  simp only [scan, Scanner.ofText, Scanner.drain_text valid, List.nil_append,
    d.collected_eq_diagnostics valid]
  exact List.mergeSort_of_pairwise (sorted.imp fun before => by simpa using Nat.le_of_lt before)

theorem scan_diagnostics_eq_collected (source : Text) :
    (scan source).diagnostics =
      ((tokenize source).filter fun t => t.kind == .illegal).map Diagnostic.illegalCharacter ++
        (Scanner.ofText source).drain.2.faults := by
  obtain ⟨d, cuts⟩ := Decomposition.exists_cuts source
  rw [scan_diagnostics cuts, tokenize_eq_tokens cuts, drain_faults_eq cuts]
  exact (d.collected_eq_diagnostics cuts.1 0).symm

theorem scan_diagnostics_orderedWithin (source : Text) :
    OrderedWithin 0 source.length (scan source).diagnostics := by
  obtain ⟨d, valid, rfl⟩ := Decomposition.exists_cuts source
  rw [scan_diagnostics ⟨valid, rfl⟩, ← Nat.zero_add d.text.length]
  exact d.diagnostics_orderedWithin valid 0

end Sprout

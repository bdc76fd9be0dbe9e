import Mathlib.Data.List.Forall2
import Sprout.Proofs.Diagnostics
import Sprout.Proofs.Places

set_option autoImplicit false

namespace Sprout

namespace Decomposition

theorem exists_lexeme {d : Decomposition} (valid : d.Valid) {start : Nat} {t : Token}
    (member : t ∈ d.lexemeTokens start) :
    ∃ (front lexeme after : Text) (form : Form), d.text = front ++ lexeme ++ after ∧
      form.Admits lexeme after ∧ t = ⟨form.kind, form.literal lexeme, start + front.length⟩ := by
  induction d generalizing start with
  | stop blanks => simp [lexemeTokens] at member
  | item blanks lexeme form rest ih =>
    obtain ⟨-, admits, valid⟩ := valid
    rw [lexemeTokens, List.mem_cons] at member
    rcases member with rfl | member
    next => exact ⟨blanks, lexeme, rest.text, form, rfl, admits, rfl⟩
    next =>
      obtain ⟨front, lexeme', after, form', same, admits', rfl⟩ := ih valid member
      refine ⟨blanks ++ lexeme ++ front, lexeme', after, form', ?_, admits', ?_⟩
      · simp [text, same]
      · simp [Nat.add_assoc]

end Decomposition

theorem char_at_illegal {source : Text} {t : Token} (member : t ∈ tokenize source)
    (illegal : t.kind = .illegal) : source[t.position]?.map (fun c => [c]) = some t.literal := by
  obtain ⟨d, valid, rfl⟩ := Decomposition.exists_cuts source
  rw [tokenize_eq_tokens ⟨valid, rfl⟩, Decomposition.tokens, List.mem_append] at member
  rcases member with member | member
  next =>
    obtain ⟨front, lexeme, after, form, same, admits, rfl⟩ := d.exists_lexeme valid member
    cases form with
    | stray =>
      obtain ⟨c, rfl, -⟩ := admits.1
      simp [same, Form.literal]
    | _ => simp [Form.kind] at illegal
  next => simp [List.mem_singleton.mp member] at illegal

theorem unclosed_eq_nil_or_last (source : Text) :
    (Scanner.ofText source).drain.2.faults = [] ∨
      ∃ t, (withoutEof (tokenize source)).getLast? = some t ∧ t.kind = .string ∧
        (Scanner.ofText source).drain.2.faults =
          [.unterminatedString ⟨t.position, source.length⟩] ∧
        source[t.position]? = some '"' := by
  obtain ⟨d, valid, rfl⟩ := Decomposition.exists_cuts source
  rw [drain_faults_eq ⟨valid, rfl⟩, tokenize_eq_tokens ⟨valid, rfl⟩, d.withoutEof_tokens]
  rcases d.faults_eq_nil_or_last valid 0 with none | ⟨t, last, string, same⟩
  next => exact .inl none
  next =>
    rw [Nat.zero_add] at same
    refine .inr ⟨t, last, string, same, ?_⟩
    obtain ⟨front, lexeme, after, form, whole, admits, rfl⟩ :=
      d.exists_lexeme valid (List.mem_of_getLast? last)
    cases form with
    | closedString value =>
      obtain ⟨raw, rfl, -⟩ := admits.1
      simp [whole]
    | openString value =>
      obtain ⟨raw, rfl, -⟩ := admits.1
      simp [whole]
    | _ => simp [Form.kind] at string

theorem quote_of_unclosed {source : Text} {x : Diagnostic}
    (member : x ∈ (Scanner.ofText source).drain.2.faults) :
    source[x.span.start]? = some '"' ∧ x.note?.isSome = true := by
  rcases unclosed_eq_nil_or_last source with none | ⟨t, -, -, same, quote⟩
  next => simp [none] at member
  next =>
    rw [same, List.mem_singleton] at member
    subst member
    exact ⟨quote, rfl⟩

theorem chars_at_faults (source : Text) :
    ((scan source).diagnostics.map fun x => source[x.span.start]?.map fun c => [c]) =
      ((tokenize source).filter fun t => t.kind == .illegal).map (fun t => some t.literal) ++
        (Scanner.ofText source).drain.2.faults.map fun _ => some ['"'] := by
  rw [scan_diagnostics_eq_collected, List.map_append, List.map_map]
  have stray : ∀ t ∈ (tokenize source).filter fun t => t.kind == .illegal,
      source[t.position]?.map (fun c => [c]) = some t.literal := by
    intro t member
    obtain ⟨member, illegal⟩ := List.mem_filter.mp member
    exact char_at_illegal member (by simpa using illegal)
  have quote : ∀ x ∈ (Scanner.ofText source).drain.2.faults,
      source[x.span.start]?.map (fun c => [c]) = some ['"'] := by
    intro x member
    rw [(quote_of_unclosed member).1, Option.map_some]
  exact congrArg₂ (· ++ ·) (List.map_congr_left stray) (List.map_congr_left quote)

theorem notes_of_faults (source : Text) :
    ((scan source).diagnostics.map fun x => x.note?.isSome) =
      ((tokenize source).filter fun t => t.kind == .illegal).map (fun _ => false) ++
        (Scanner.ofText source).drain.2.faults.map fun _ => true := by
  rw [scan_diagnostics_eq_collected, List.map_append, List.map_map]
  have helped : ∀ x ∈ (Scanner.ofText source).drain.2.faults, x.note?.isSome = true :=
    fun x member => (quote_of_unclosed member).2
  exact congrArg₂ (· ++ ·) rfl (List.map_congr_left helped)

theorem starts_of_faults (source : Text) :
    ((scan source).diagnostics.map fun x => x.span.start) =
      ((tokenize source).filter fun t => t.kind == .illegal).map Token.position ++
        (Scanner.ofText source).drain.2.faults.map fun x => x.span.start := by
  rw [scan_diagnostics_eq_collected, List.map_append, List.map_map]
  rfl

theorem Diagnostic.reportOn_of_located {x : Diagnostic} {lines : List Text} {p : Text.Place}
    (ordered : x.span.start < x.span.stop) (inside : x.span.stop ≤ lines.flatten.length)
    (found : Text.locate? lines x.span.start = some p) (file : Option Text) :
    x.reportOn lines file = .ok ⟨x.header, some ⟨file.getD shellName, p⟩, x.note?⟩ := by
  have within : x.span.stop - 1 < lines.flatten.length := by omega
  obtain ⟨q, last, -⟩ := Text.exists_locate? within
  have place : x.span.place? lines = some p := by
    simp [Span.place?, last, found]
  rw [Diagnostic.reportOn, if_neg (by omega), place]

theorem exists_places (source : Text) :
    ∃ place : Diagnostic → Text.Place,
      (∀ x ∈ (scan source).diagnostics,
        Text.Counts source.lines x.span.start (place x) ∧
          Text.charAt? source.lines (place x) = source[x.span.start]?) ∧
      ((scan source).diagnostics.map place).Pairwise Text.Place.Before ∧
      ∀ file, ∀ x ∈ (scan source).diagnostics,
        x.report source file = .ok ⟨x.header, some ⟨file.getD shellName, place x⟩, x.note?⟩ := by
  have inside := scan_diagnostics_orderedWithin source
  have located : ∀ x ∈ (scan source).diagnostics, ∃ p,
      Text.locate? source.lines x.span.start = some p ∧
        Text.charAt? source.lines p = source[x.span.start]? := by
    intro x member
    have bound := inside.2 x member
    have within : x.span.start < source.lines.flatten.length := by
      rw [Text.flatten_lines]
      omega
    simpa using Text.exists_locate? within
  choose! place located char using located
  refine ⟨place, fun x member => ⟨Text.counts_of_locate? (located x member), char x member⟩, ?_, ?_⟩
  · rw [List.pairwise_map]
    apply inside.sorted.imp_of_mem
    intro x y memberX memberY less
    exact Text.before_of_lt less (located x memberX) (located y memberY)
  · intro file x member
    have bound := inside.2 x member
    refine x.reportOn_of_located bound.2.1 ?_ (located x member) file
    rw [Text.flatten_lines]
    exact bound.2.2

theorem run_reports {source : Text} {file : Option Text} {report : Diagnostic → Report}
    (reported : ∀ x ∈ (scan source).diagnostics, x.report source file = .ok (report x))
    (showTokens : Bool) :
    (run source file showTokens).reports = (scan source).diagnostics.map report := by
  rw [← List.filterMap_eq_map]
  apply List.filterMap_congr
  intro x member
  exact congrArg Except.toOption (reported x member)

theorem run_reports_stand_at_faults (source : Text) (file : Option Text) (showTokens : Bool) :
    let strays := (tokenize source).filter fun t => t.kind == .illegal
    let unclosed := (Scanner.ofText source).drain.2.faults
    let shown := run source file showTokens
    ∃ (lines : List Text) (places : List Text.Place),
      (∀ cut, Text.Lined source cut ↔ cut = lines) ∧
      shown.count = shown.reports.length ∧
      (strays.map Diagnostic.illegalCharacter ++ unclosed).map (fun x => x.report source file) =
        shown.reports.map .ok ∧
      shown.reports.map Report.location = places.map (fun p => some ⟨file.getD shellName, p⟩) ∧
      List.Forall₂ (Text.Counts lines)
        (strays.map Token.position ++ unclosed.map fun x => x.span.start) places ∧
      places.map (fun p => (Text.charAt? lines p).map fun c => [c]) =
        strays.map (fun t => some t.literal) ++ unclosed.map (fun _ => some ['"']) ∧
      places.Pairwise Text.Place.Before ∧
      shown.reports.map (fun r => r.note.isSome) =
        strays.map (fun _ => false) ++ unclosed.map (fun _ => true) ∧
      (unclosed = [] ∨
        ∃ t, (withoutEof (tokenize source)).getLast? = some t ∧ t.kind = .string ∧
          unclosed = [.unterminatedString ⟨t.position, source.length⟩]) := by
  intro strays unclosed shown
  have found : (scan source).diagnostics = strays.map Diagnostic.illegalCharacter ++ unclosed :=
    scan_diagnostics_eq_collected source
  obtain ⟨place, stands, ordered, reported⟩ := exists_places source
  have reports : shown.reports = (scan source).diagnostics.map _ :=
    run_reports (reported file) showTokens
  have count : shown.count = (scan source).diagnostics.length := rfl
  refine ⟨source.lines, _, fun cut => Text.lined_iff, ?_, ?_, ?_, ?_, ?_, ordered, ?_, ?_⟩
  · rw [reports, List.length_map, count]
  · rw [reports, List.map_map, ← found]
    exact List.map_congr_left (reported file)
  · rw [reports, List.map_map, List.map_map]
    rfl
  · rw [← starts_of_faults, List.forall₂_map_left_iff, List.forall₂_map_right_iff, List.forall₂_same]
    exact fun x member => (stands x member).1
  · rw [← chars_at_faults, List.map_map]
    exact List.map_congr_left fun x member => congrArg (Option.map _) (stands x member).2
  · rw [← notes_of_faults, reports, List.map_map]
    rfl
  · rcases unclosed_eq_nil_or_last source with none | ⟨t, last, string, same, -⟩
    · exact .inl none
    · exact .inr ⟨t, last, string, same⟩

end Sprout

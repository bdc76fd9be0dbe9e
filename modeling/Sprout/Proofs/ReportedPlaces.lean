import Sprout.Proofs.Escaping
import Sprout.Proofs.Places
import Sprout.Report

set_option autoImplicit false

namespace Sprout

namespace Text

theorem Place.Before.asymm {p q : Place} (before : p.Before q) (after : q.Before p) : False := by
  unfold Before at before after
  omega

theorem locate?_eq_none_iff {lines : List Text} {offset : Nat} :
    locate? lines offset = none ↔ lines = [] ∨ lines.flatten.length < offset := by
  fun_induction locate? lines offset with
  | case1 => simp
  | case2 line offset inside => simpa using inside
  | case3 line offset outside => simpa using outside
  | case4 line rest offset _ inside =>
    rw [or_iff_right (List.cons_ne_nil line rest), List.flatten_cons, List.length_append]
    exact iff_of_false (by simp) (by omega)
  | case5 line rest offset more behind ih =>
    rw [Option.map_eq_none_iff, ih, or_iff_right more, or_iff_right (List.cons_ne_nil line rest),
      List.flatten_cons, List.length_append]
    omega

theorem lines_eq_nil_iff {t : Text} : t.lines = [] ↔ t = [] := by
  constructor
  · intro none
    rw [← flatten_lines t, none, List.flatten_nil]
  · rintro rfl
    rfl

theorem locate?_lines_eq_none_iff {t : Text} {offset : Nat} :
    locate? t.lines offset = none ↔ t = [] ∨ t.length < offset := by
  rw [locate?_eq_none_iff, lines_eq_nil_iff, flatten_lines]

end Text

-- The name of a file may hold colons, so a location is read from its end.
theorem Location.display_inj {l l' : Location} (same : l.display = l'.display) : l = l' := by
  have shape (x : Location) : x.display.reverse =
      (Nat.toDigits 10 x.place.column).reverse ++
        ':' :: ((Nat.toDigits 10 x.place.line).reverse ++ ':' :: x.file.reverse) := by
    simp [display]
  have noColon (n : Nat) : ':' ∉ (Nat.toDigits 10 n).reverse := by
    rw [List.mem_reverse]
    exact not_mem_toDigits (by decide) n
  have same := congrArg List.reverse same
  rw [shape, shape] at same
  obtain ⟨sameColumn, same⟩ := cut_unique (noColon _) (noColon _) same
  obtain ⟨sameLine, sameFile⟩ := cut_unique (noColon _) (noColon _) same
  have column := toDigits_inj (by omega) (by omega) (List.reverse_inj.mp sameColumn)
  have line := toDigits_inj (by omega) (by omega) (List.reverse_inj.mp sameLine)
  have file := List.reverse_inj.mp sameFile
  calc
    l = ⟨l.file, l.place.line, l.place.column⟩ := rfl
    _ = ⟨l'.file, l'.place.line, l'.place.column⟩ := by rw [file, line, column]
    _ = l' := rfl

namespace Span

def FitsOn (span : Span) (source : Text) : Prop :=
  source ≠ [] ∧ span.start ≤ source.length ∧
    (span.start = span.stop ∨ span.stop - 1 ≤ source.length)

theorem place?_eq_none_iff {span : Span} (ordered : span.start ≤ span.stop) {source : Text} :
    span.place? source.lines = none ↔ ¬ span.FitsOn source := by
  rw [place?, ite_eq_left_iff, Text.locate?_lines_eq_none_iff, Text.locate?_lines_eq_none_iff,
    FitsOn]
  by_cases empty : source = []
  · simp [empty]
  · simp only [empty, false_or, ne_eq, not_false_eq_true, true_and]
    omega

theorem locate?_of_place? {span : Span} {lines : List Text} {p : Text.Place}
    (found : span.place? lines = some p) : Text.locate? lines span.start = some p :=
  (Option.ite_none_left_eq_some.mp found).2

end Span

namespace Diagnostic

variable {d : Diagnostic} {source : Text} {file : Option Text}

theorem report_of_reversed (reversed : d.span.stop < d.span.start) :
    d.report source file = .error .reversedSpan := by
  rw [report, reportOn, if_pos reversed]

theorem report_of_ordered (ordered : d.span.start ≤ d.span.stop) :
    d.report source file =
      match d.span.place? source.lines with
      | some p => .ok ⟨d.header, some ⟨file.getD shellName, p⟩, d.note?⟩
      | none => .ok ⟨d.header, none, none⟩ := by
  rw [report, reportOn]
  exact if_neg (Nat.not_lt.mpr ordered)

theorem place?_of_location {r : Report} {l : Location} (reported : d.report source file = .ok r)
    (shown : r.location = some l) : d.span.place? source.lines = some l.place := by
  by_cases reversed : d.span.stop < d.span.start
  next => simp [report_of_reversed reversed] at reported
  next =>
    rw [report_of_ordered (Nat.le_of_not_lt reversed)] at reported
    cases found : d.span.place? source.lines with
    | none =>
      rw [found] at reported
      obtain rfl := Except.ok.inj reported
      cases shown
    | some p =>
      rw [found] at reported
      obtain rfl := Except.ok.inj reported
      cases shown
      rfl

end Diagnostic

theorem reported_place_encodes_start (source : Text) :
    ∃ lines : List Text, (∀ cut, Text.Lined source cut ↔ cut = lines) ∧
      (∀ (d : Diagnostic) (file : Option Text),
        (d.span.start ≤ d.span.stop → d.span.FitsOn source →
          ∃ p, d.report source file = .ok ⟨d.header, some ⟨file.getD shellName, p⟩, d.note?⟩ ∧
            Text.Counts lines d.span.start p) ∧
        (d.span.start ≤ d.span.stop → ¬ d.span.FitsOn source →
          d.report source file = .ok ⟨d.header, none, none⟩) ∧
        (d.span.stop < d.span.start → ∃ e, d.report source file = .error e ∧
          e.message = "Label start is after its end".toList)) ∧
      ∀ (d d' : Diagnostic) (file file' : Option Text) (r r' : Report) (l l' : Location),
        d.report source file = .ok r → r.location = some l →
        d'.report source file' = .ok r' → r'.location = some l' →
        (l.display = l'.display → d.span.start = d'.span.start) ∧
        (l.place = l'.place ↔ d.span.start = d'.span.start) ∧
        (l.place.Before l'.place ↔ d.span.start < d'.span.start) := by
  refine ⟨source.lines, fun cut => Text.lined_iff, ?_, ?_⟩
  · intro d file
    refine ⟨?_, ?_, fun reversed => ⟨_, Diagnostic.report_of_reversed reversed, rfl⟩⟩
    · intro ordered fits
      obtain ⟨p, found⟩ := Option.ne_none_iff_exists'.mp
        (mt (Span.place?_eq_none_iff ordered).mp (not_not.mpr fits))
      refine ⟨p, ?_, Text.counts_of_locate? (Span.locate?_of_place? found)⟩
      rw [Diagnostic.report_of_ordered ordered, found]
    · intro ordered fitsNot
      rw [Diagnostic.report_of_ordered ordered, (Span.place?_eq_none_iff ordered).mpr fitsNot]
  · intro d d' file file' r r' l l' reported shown reported' shown'
    have located := Span.locate?_of_place? (Diagnostic.place?_of_location reported shown)
    have located' := Span.locate?_of_place? (Diagnostic.place?_of_location reported' shown')
    have counts := Text.counts_of_locate? located
    have counts' := Text.counts_of_locate? located'
    have sameStart : l.place = l'.place → d.span.start = d'.span.start := by
      intro same
      exact counts.unique (same ▸ counts')
    have samePlace : d.span.start = d'.span.start → l.place = l'.place := by
      intro same
      rw [same] at located
      exact Option.some.inj (located.symm.trans located')
    refine ⟨fun same => sameStart (congrArg Location.place (Location.display_inj same)),
      ⟨sameStart, samePlace⟩, ?_, fun less => Text.before_of_lt less located located'⟩
    intro before
    by_contra notLess
    rcases Nat.eq_or_lt_of_le (Nat.le_of_not_lt notLess) with same | less
    · rw [samePlace same.symm] at before
      exact before.asymm before
    · exact before.asymm (Text.before_of_lt less located' located)

theorem reported_place_encodes_start_separators :
    let source : Text := ['a', '\r', '\n', '\u2028', 'b']
    let feed := Diagnostic.unterminatedString ⟨2, 6⟩
    let last := Diagnostic.unterminatedString ⟨5, 5⟩
    let outside := Diagnostic.unterminatedString ⟨5, 7⟩
    feed.span.FitsOn source ∧
      feed.report source none = .ok ⟨feed.header, some ⟨shellName, ⟨1, 3⟩⟩, feed.note?⟩ ∧
      Text.Counts source.lines 2 ⟨1, 3⟩ ∧
      last.report source none = .ok ⟨last.header, some ⟨shellName, ⟨3, 2⟩⟩, last.note?⟩ ∧
      Text.Place.Before ⟨1, 3⟩ ⟨3, 2⟩ ∧
      ¬ outside.span.FitsOn source ∧
      outside.report source none = .ok ⟨outside.header, none, none⟩ := by
  intro source feed last outside
  obtain ⟨lines, cut, reports, starts⟩ := reported_place_encodes_start source
  obtain rfl : source.lines = lines := (cut _).mp (Text.lined_lines source)
  have fits : feed.span.FitsOn source := ⟨by decide, by decide, .inr (by decide)⟩
  have fitsNot : ¬ outside.span.FitsOn source := by
    rintro ⟨-, -, same | less⟩
    · exact absurd same (by decide)
    · exact absurd less (by decide)
  have first : feed.report source none =
      .ok ⟨feed.header, some ⟨shellName, ⟨1, 3⟩⟩, feed.note?⟩ := rfl
  have second : last.report source none =
      .ok ⟨last.header, some ⟨shellName, ⟨3, 2⟩⟩, last.note?⟩ := rfl
  obtain ⟨p, reported, counts⟩ := (reports feed none).1 (by decide) fits
  obtain rfl : ⟨1, 3⟩ = p := by
    rw [first] at reported
    simpa using reported
  have before := (starts feed last none none _ _ _ _ first rfl second rfl).2.2.mpr (by decide)
  exact ⟨fits, first, counts, second, before, fitsNot, (reports outside none).2.1 (by decide) fitsNot⟩

end Sprout

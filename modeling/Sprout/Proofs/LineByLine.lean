import Sprout.Proofs.Sessions
import Sprout.Proofs.Splitting
import Sprout.Proofs.TokenLines

set_option autoImplicit false

namespace Sprout

namespace Text

theorem toNat_of_mem_utf8EncodeChar (c : Char) :
    ∀ b ∈ String.utf8EncodeChar c, b.toNat = c.val.toNat ∨ 128 ≤ b.toNat := by
  simp only [String.utf8EncodeChar]
  split_ifs <;>
    simp only [List.forall_mem_cons, List.not_mem_nil, IsEmpty.forall_iff, implies_true, and_true,
      UInt8.toNat_ofNat'] <;>
    omega

theorem newline_mem_encode_iff {t : Text} : 10 ∈ t.encode ↔ '\n' ∈ t := by
  rw [encode, List.mem_flatMap]
  constructor
  · rintro ⟨c, member, byte⟩
    have point : c.val.toNat = 10 := by
      have number := toNat_of_mem_utf8EncodeChar c 10 byte
      simpa [eq_comm] using number
    obtain rfl : c = '\n' := Char.ext (UInt32.toNat_inj.mp point)
    exact member
  · intro member
    exact ⟨'\n', member, by decide⟩

theorem trim_eq_nil_iff {t : Text} : t.trim = [] ↔ ∀ c ∈ t, whitespace.contains c = true := by
  constructor
  · intro empty
    rw [trim, List.reverse_eq_nil_iff, List.dropWhile_eq_nil_iff] at empty
    have skipped : t.dropWhile whitespace.contains = [] := by
      cases left : t.dropWhile whitespace.contains with
      | nil => rfl
      | cons c rest =>
        have solid : whitespace.contains c = false := head?_afterRun (by rw [left]; rfl)
        have space := empty c (by simp [left])
        simp [solid] at space
    exact List.dropWhile_eq_nil_iff.mp skipped
  · intro spaces
    exact @trim_append [] t spaces

theorem toNat_of_whitespace {c : Char} (space : whitespace.contains c = true) :
    c.toNat ≤ 32 ∨ 133 ≤ c.toNat := by
  obtain ⟨range, member, low, high⟩ := (whitespace.contains_iff c).mp space
  have apart : ∀ range ∈ whitespace.ranges, range.2 ≤ 32 ∨ 133 ≤ range.1 := by decide
  have := apart range member
  omega

end Text

theorem toNat_of_isWordPart {c : Char} (part : isWordPart c = true) :
    48 ≤ c.toNat ∧ c.toNat ≤ 122 := by
  have within {low high : Char} (lower : low.val ≤ c.val) (upper : c.val ≤ high.val)
      (from48 : 48 ≤ low.toNat) (to122 : high.toNat ≤ 122) : 48 ≤ c.toNat ∧ c.toNat ≤ 122 :=
    ⟨le_trans from48 (UInt32.le_iff_toNat_le.mp lower),
      le_trans (UInt32.le_iff_toNat_le.mp upper) to122⟩
  rcases (Bool.or_eq_true _ _).mp part with start | digit
  next =>
    rcases (Bool.or_eq_true _ _).mp start with letter | underscore
    next =>
      rcases (Bool.or_eq_true _ _).mp letter with upper | lower
      next =>
        obtain ⟨low, high⟩ := of_decide_eq_true upper
        exact within low high (by decide) (by decide)
      next =>
        obtain ⟨low, high⟩ := (Bool.and_eq_true _ _).mp lower
        exact within (of_decide_eq_true low) (of_decide_eq_true high) (by decide) (by decide)
    next =>
      obtain rfl := beq_iff_eq.mp underscore
      decide
  next =>
    obtain ⟨low, high⟩ := (Bool.and_eq_true _ _).mp digit
    exact within (of_decide_eq_true low) (of_decide_eq_true high) (by decide) (by decide)

theorem isStray_of_whitespace {c : Char} (space : Text.whitespace.contains c = true)
    (solid : isBlank c = false) : isStray c = true := by
  have noPart : isWordPart c = false := by
    rw [Bool.eq_false_iff]
    intro part
    have := toNat_of_isWordPart part
    have := Text.toNat_of_whitespace space
    omega
  have notQuote : c ∉ ['"'] := not_mem_of_class (by decide) space
  have noMark : c ∉ marks := not_mem_of_class (by decide) space
  rw [List.mem_singleton] at notQuote
  simp [isStray, solid, noPart, notQuote, noMark]

namespace Decomposition

theorem eq_stop_of_spaces {d : Decomposition} (valid : d.Valid) {start : Nat}
    (clean : d.diagnostics start = [])
    (spaces : ∀ c ∈ d.text, Text.whitespace.contains c = true) : d = stop d.text := by
  cases d with
  | stop blanks => rfl
  | item blanks lexeme form rest =>
    obtain ⟨-, admits, -⟩ := valid
    obtain ⟨c, more, x, rfl, solid, -⟩ := Form.read_of_admits admits
    have stray := isStray_of_whitespace (spaces c (by simp [text])) solid
    obtain ⟨rfl, rfl⟩ := admits.eq_stray stray
    simp [diagnostics, Form.diagnostics] at clean

end Decomposition

namespace Shell

def placedTokens : Nat → List Text → List Token
  | _, [] => []
  | start, line :: rest =>
    (withoutEof (tokenize line)).map (Token.shift start) ++ placedTokens (start + line.length) rest

theorem LineCut.tokens_eq {source : Text} {lines : List Text} (cut : LineCut '\n' source lines)
    {g : Decomposition} (cuts : g.Cuts source) (clean : g.diagnostics 0 = [])
    (flat : ∀ x ∈ g.lexemes, '\n' ∉ x.2) (start : Nat) :
    g.lexemeTokens start = placedTokens start lines ∧
      ∀ line ∈ lines, (scan line).diagnostics = [] := by
  induction cut generalizing g start with
  | nil =>
    rw [Decomposition.eq_stop_of_text_eq_nil cuts.1 cuts.2]
    exact ⟨rfl, by simp⟩
  | @last body solid plain =>
    constructor
    · rw [Decomposition.lexemeTokens_eq_shift cuts, placedTokens, placedTokens, List.append_nil]
    · simpa [scan_diagnostics cuts] using clean
  | @line body rest lines plain more ih =>
    obtain ⟨d, e, cutsLine, cutsRest, rfl⟩ := Decomposition.splits_behind_line cuts.1 cuts.2 flat
    rw [Decomposition.diagnostics_append, List.append_eq_nil_iff] at clean
    rw [Decomposition.lexemes_append, List.forall_mem_append] at flat
    have cleanRest := (e.diagnostics_eq_nil_iff _).mp clean.2
    obtain ⟨later, cleanLines⟩ := ih cutsRest cleanRest flat.2 (start + (body ++ ['\n']).length)
    constructor
    · rw [Decomposition.lexemeTokens_append, cutsLine.2, later, placedTokens,
        Decomposition.lexemeTokens_eq_shift cutsLine]
    · rw [List.forall_mem_cons]
      exact ⟨(scan_diagnostics cutsLine).trans clean.1, cleanLines⟩

theorem StripsTo.tokens_eq {line body : Text} (strips : StripsTo line body)
    (clean : (scan line).diagnostics = []) :
    withoutEof (tokenize body) = withoutEof (tokenize line) ∧ (scan body).diagnostics = [] := by
  obtain ⟨⟨ends, rfl, feeds⟩, -⟩ := strips
  have blank : IsBlankRun ends := by
    intro c member
    rcases feeds c member with rfl | rfl <;> decide
  obtain ⟨g, cuts⟩ := Decomposition.exists_cuts (body ++ ends)
  rw [scan_diagnostics cuts] at clean
  obtain ⟨d, cutsBody, rfl⟩ := Decomposition.splits_before_blanks cuts.1 cuts.2 blank clean
  rw [Decomposition.diagnostics_append, List.append_eq_nil_iff] at clean
  constructor
  · rw [tokenize_eq_tokens cuts, tokenize_eq_tokens cutsBody, Decomposition.withoutEof_tokens,
      Decomposition.withoutEof_tokens, Decomposition.lexemeTokens_append]
    exact (List.append_nil _).symm
  · rw [scan_diagnostics cutsBody]
    exact clean.1

theorem tokens_eq_nil_of_trim {line : Text} (blank : line.trim = [])
    (clean : (scan line).diagnostics = []) : withoutEof (tokenize line) = [] := by
  obtain ⟨d, cuts⟩ := Decomposition.exists_cuts line
  have spaces : ∀ c ∈ d.text, Text.whitespace.contains c = true := by
    rw [cuts.2]
    exact Text.trim_eq_nil_iff.mp blank
  rw [scan_diagnostics cuts] at clean
  rw [tokenize_eq_tokens cuts, Decomposition.withoutEof_tokens,
    Decomposition.eq_stop_of_spaces cuts.1 clean spaces]
  rfl

theorem LineCut.encode {source : Text} {lines : List Text} (cut : LineCut '\n' source lines) :
    LineCut 10 source.encode (lines.map Text.encode) := by
  induction cut with
  | nil => exact .nil
  | @last body solid plain =>
    refine .last ?_ (mt Text.newline_mem_encode_iff.mp plain)
    intro empty
    obtain ⟨c, rest, rfl⟩ := List.exists_cons_of_ne_nil solid
    simp [Text.encode] at empty
  | @line body rest lines plain more ih =>
    have plain' : 10 ∉ Text.encode body := mt Text.newline_mem_encode_iff.mp plain
    have newline : String.utf8EncodeChar '\n' = [10] := rfl
    simpa [Text.encode, newline] using LineCut.line plain' ih

theorem shown_of_clean {line : Text} (clean : (scan line).diagnostics = [])
    (stays : ¬ AsksForEnd line) :
    (reply line.encode).shown =
      { stdout := (withoutEof (tokenize line)).flatMap Token.line } := by
  have strips := stripsTo_stripLineEnd line
  obtain ⟨sameTokens, cleanBody⟩ := strips.tokens_eq clean
  rw [reply_eq (Text.decode?_encode line) strips, if_neg stays]
  split
  next blank =>
    rw [tokens_eq_nil_of_trim blank clean]
    rfl
  next =>
    have noReports : (run (stripLineEnd line) none true).reports = [] := by
      simp [run, Listing.reports, cleanBody]
    rw [Reply.shown, shownFor, run_stdout, sameTokens, noReports]

theorem answers_of_clean {lines : List Text} (clean : ∀ line ∈ lines, (scan line).diagnostics = [])
    (stays : ∀ line ∈ lines, ¬ AsksForEnd line) :
    answers (lines.map Text.encode) =
      { stdout := lines.flatMap fun line =>
          prompt.stdout ++ (withoutEof (tokenize line)).flatMap Token.line } := by
  induction lines with
  | nil => rfl
  | cons line rest ih =>
    rw [List.forall_mem_cons] at clean stays
    rw [List.map_cons, answers, shown_of_clean clean.1 stays.1, ih clean.2 stays.2]
    rfl

theorem session_agrees_with_run (source : Text) (file : Option Text)
    (clean : (scan source).diagnostics = [])
    (flat : ∀ d : Decomposition, d.Cuts source →
      ∀ x ∈ d.lexemes, x.1.kind = .string → '\n' ∉ x.2)
    (stays : ∀ lines, LineCut '\n' source lines → ∀ line ∈ lines, ¬ AsksForEnd line) :
    ∃ lines : List Text, LineCut '\n' source lines ∧
      (session source.encode).reports = [] ∧ (session source.encode).stderr = [] ∧
      (session source.encode).stdout =
        banner.stdout ++
          (lines.flatMap fun line =>
            prompt.stdout ++ (withoutEof (tokenize line)).flatMap Token.line) ++
          prompt.stdout ++ lineEnd.stdout ∧
      placedTokens 0 lines = withoutEof (tokenize source) ∧
      (run source file true).stdout = (withoutEof (tokenize source)).flatMap Token.line := by
  obtain ⟨lines, cut⟩ := exists_lineCut '\n' source
  obtain ⟨g, cuts⟩ := Decomposition.exists_cuts source
  have staysHere := stays lines cut
  have noFeed : ∀ x ∈ g.lexemes, '\n' ∉ x.2 := by
    intro x member feed
    by_cases string : x.1.kind = .string
    next => exact flat g cuts x member string feed
    next =>
      obtain ⟨after, position, admits, -⟩ := Decomposition.admits_of_mem_lexemes cuts.1 0 member
      have solid := admits.solid_of_mem string feed
      exact absurd solid (by decide)
  have cleanHere : g.diagnostics 0 = [] := by rwa [← scan_diagnostics cuts]
  obtain ⟨placed, cleanLines⟩ := cut.tokens_eq cuts cleanHere noFeed 0
  have goesOn : ∀ line ∈ lines.map Text.encode, reply line = .goOn (reply line).shown := by
    intro bytes member
    obtain ⟨line, inside, rfl⟩ := List.mem_map.mp member
    exact reply_goesOn (Text.decode?_encode line) (staysHere line inside)
  have whole : session source.encode =
      banner ++ (answers (lines.map Text.encode) ++ (prompt ++ lineEnd)) := by
    have talk := converse_append goesOn []
    rw [List.append_nil] at talk
    rw [session, ← cut.encode.eq_byteLines, talk]
    rfl
  rw [answers_of_clean cleanLines staysHere] at whole
  refine ⟨lines, cut, by rw [whole]; rfl, by rw [whole]; rfl, ?_, ?_, run_stdout source file⟩
  · rw [whole]
    simp
  · rw [← placed, tokenize_eq_tokens cuts, Decomposition.withoutEof_tokens]

theorem session_agrees_with_run_blank_line :
    (session (Text.encode ['1', '\r', '\n', '\n', '='])).reports = [] ∧
      placedTokens 0 [['1', '\r', '\n'], ['\n'], ['=']] =
        withoutEof (tokenize ['1', '\r', '\n', '\n', '=']) ∧
      withoutEof (tokenize ['1', '\r', '\n', '\n', '=']) =
        [⟨.int, ['1'], 0⟩, ⟨.symbol .assign, ['='], 4⟩] := by
  let second : Decomposition := .item ['\r', '\n', '\n'] ['='] (.symbol .assign) (.stop [])
  have cuts : (Decomposition.item [] ['1'] .number second).Cuts ['1', '\r', '\n', '\n', '='] := by
    refine ⟨⟨?_, ⟨⟨?_, ?_⟩, ?_⟩, ?_, ⟨rfl, ?_⟩, ?_⟩, rfl⟩ <;>
      simp [second, Decomposition.Valid, Decomposition.text, IsBlankRun, isBlank,
        Form.extendedBy, Form.kind, Kind.extendedBy]
  have cutsLines :
      LineCut '\n' ['1', '\r', '\n', '\n', '='] [['1', '\r', '\n'], ['\n'], ['=']] := by
    refine @LineCut.line _ '\n' ['1', '\r'] _ _ (by simp) ?_
    exact @LineCut.line _ '\n' [] _ _ (by simp) (.last (by simp) (by simp))
  have clean : (scan ['1', '\r', '\n', '\n', '=']).diagnostics = [] := by
    rw [scan_diagnostics cuts]
    rfl
  have flat : ∀ d : Decomposition, d.Cuts ['1', '\r', '\n', '\n', '='] →
      ∀ x ∈ d.lexemes, x.1.kind = .string → '\n' ∉ x.2 := by
    intro d cuts' x member
    rw [Decomposition.cuts_unique cuts' cuts] at member
    simp only [second, Decomposition.lexemes, List.mem_cons, List.not_mem_nil, or_false] at member
    rcases member with rfl | rfl <;> simp
  have stays : ∀ lines, LineCut '\n' ['1', '\r', '\n', '\n', '='] lines →
      ∀ line ∈ lines, ¬ AsksForEnd line := by
    intro lines cut
    rw [cut.unique cutsLines]
    decide
  obtain ⟨lines, cut, noReports, -, -, placed, -⟩ :=
    session_agrees_with_run ['1', '\r', '\n', '\n', '='] none clean flat stays
  rw [cut.unique cutsLines] at placed
  refine ⟨noReports, placed, ?_⟩
  rw [tokenize_eq_tokens cuts, Decomposition.withoutEof_tokens]
  rfl

end Shell

end Sprout

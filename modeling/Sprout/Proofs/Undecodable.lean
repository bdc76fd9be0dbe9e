import Mathlib.Data.Nat.Find
import Mathlib.Order.Bounds.Basic
import Sprout.Program
import Sprout.Proofs.LineByLine

set_option autoImplicit false

namespace Sprout

namespace Text

def IsEncoded (bytes : List UInt8) : Prop := ∃ t : Text, bytes = t.encode

theorem isEncoded_iff {bytes : List UInt8} : IsEncoded bytes ↔ (decode? bytes).isSome = true := by
  simp only [IsEncoded, Option.isSome_iff_exists, decode?_eq_some_iff]

instance (bytes : List UInt8) : Decidable (IsEncoded bytes) := decidable_of_iff _ isEncoded_iff.symm

theorem decode?_eq_none_iff {bytes : List UInt8} : decode? bytes = none ↔ ¬ IsEncoded bytes := by
  rw [isEncoded_iff, Option.not_isSome_iff_eq_none]

theorem isEncoded_flatten {lines : List (List UInt8)} (encoded : ∀ line ∈ lines, IsEncoded line) :
    IsEncoded lines.flatten := by
  induction lines with
  | nil => exact ⟨[], rfl⟩
  | cons line rest ih =>
    obtain ⟨⟨t, rfl⟩, others⟩ := List.forall_mem_cons.mp encoded
    obtain ⟨more, same⟩ := ih others
    exact ⟨t ++ more, by rw [List.flatten_cons, same, encode_append]⟩

end Text

namespace Program

theorem joinLines_splitOn (message : Text) :
    joinLines (message.splitOn '\n') = message ++ ['\n'] := by
  have joined {lines : List Text} (some : lines ≠ []) :
      joinLines lines = ['\n'].intercalate lines ++ ['\n'] := by
    induction lines with
    | nil => exact absurd rfl some
    | cons line rest ih =>
      by_cases last : rest = []
      · simp [last, joinLines]
      · rw [List.intercalate_cons_of_ne_nil last, List.append_assoc, ← ih last]
        rfl
  rw [joined (List.splitOn_ne_nil _ _), List.intercalate_splitOn]

theorem newline_not_mem_reason (error : FileError) : '\n' ∉ error.reason := by
  cases error <;> decide

theorem stderr_unreadable {path : Text} (oneLine : '\n' ∉ path) (error : FileError) :
    (unreadable path error).shown.stderr =
      ["Error reading file '".toList ++ path ++ "': ".toList ++ error.reason] := by
  refine splitOn_of_not_mem fun member => ?_
  simp only [List.mem_append] at member
  rcases member with ((start | inPath) | middle) | inReason
  · exact absurd start (by decide)
  · exact oneLine inPath
  · exact absurd middle (by decide)
  · exact newline_not_mem_reason error inReason

section

variable {args : List Text} {settings : CommandLine.Settings} {path : Text}
  {files : Text → Except FileError (List UInt8)}
  (parsed : CommandLine.parse args = .ok settings) (isFile : settings.source = some (.file path))

include parsed isFile

theorem outcome_of_text {source : Text} (held : files path = .ok source.encode)
    (stdin : List UInt8) :
    outcome args files stdin = scanned source path settings.quiet := by
  simp [outcome, parsed, perform, isFile, fileText, held, bind, Except.bind]

theorem outcome_of_unencoded {content : List UInt8} (held : files path = .ok content)
    (unencoded : ¬ Text.IsEncoded content) (stdin : List UInt8) :
    outcome args files stdin = unreadable path .notText := by
  simp [outcome, parsed, perform, isFile, fileText, held, bind, Except.bind,
    Text.decode?_eq_none_iff.mpr unencoded]

end

end Program

namespace Shell

namespace LineCut

theorem flatten_eq {α : Type} {feed : α} {items : List α} {lines : List (List α)}
    (cut : LineCut feed items lines) : lines.flatten = items := by
  induction cut with
  | nil => rfl
  | last => simp
  | line plain more ih => simp [ih]

theorem split {α : Type} {feed : α} {items : List α} {first last : List (List α)} (some : last ≠ [])
    (cut : LineCut feed items (first ++ last)) :
    LineCut feed first.flatten first ∧
      (first.flatten = [] ∨ first.flatten.getLast? = Option.some feed) ∧
      LineCut feed last.flatten last := by
  induction first generalizing items with
  | nil => exact ⟨.nil, .inl rfl, cut.flatten_eq ▸ cut⟩
  | cons line first ih =>
    generalize whole : line :: first ++ last = lines at cut
    cases cut with
    | nil => simp at whole
    | last => simp [some] at whole
    | line plain more =>
      obtain ⟨rfl, rfl⟩ := List.cons.inj whole
      obtain ⟨cut, ends, cut'⟩ := ih more
      refine ⟨?_, .inr ?_, cut'⟩
      · simpa using LineCut.line plain cut
      · rcases ends with empty | ends
        · simp [empty]
        · simp [List.getLast?_cons, ends]

theorem isEncoded_iff {bytes : List UInt8} {lines : List (List UInt8)}
    (cut : LineCut 10 bytes lines) :
    Text.IsEncoded bytes ↔ ∀ line ∈ lines, Text.IsEncoded line := by
  constructor
  · rintro ⟨t, rfl⟩ line member
    obtain ⟨texts, cutText⟩ := exists_lineCut '\n' t
    rw [cut.unique cutText.encode] at member
    obtain ⟨text, -, rfl⟩ := List.mem_map.mp member
    exact ⟨text, rfl⟩
  · intro encoded
    rw [← cut.flatten_eq]
    exact Text.isEncoded_flatten encoded

end LineCut

theorem exists_first_unencoded {lines : List (List UInt8)}
    (wrong : ¬ ∀ line ∈ lines, Text.IsEncoded line) :
    ∃ earlier line later, lines = earlier ++ line :: later ∧
      (∀ l ∈ earlier, Text.IsEncoded l) ∧ ¬ Text.IsEncoded line := by
  have found : (lines.find? fun line => !decide (Text.IsEncoded line)).isSome = true := by
    simpa using wrong
  obtain ⟨line, found⟩ := Option.isSome_iff_exists.mp found
  obtain ⟨unencoded, earlier, later, whole, encoded⟩ := List.find?_eq_some_iff_append.mp found
  exact ⟨earlier, line, later, whole, by simpa using encoded, by simpa using unencoded⟩

theorem reply_of_unencoded {line : List UInt8} (unencoded : ¬ Text.IsEncoded line) :
    reply line = .stop readError := by
  rw [reply, Text.decode?_eq_none_iff.mpr unencoded]

theorem stderr_reply {line : List UInt8} (encoded : Text.IsEncoded line) :
    (reply line).shown.stderr = [] := by
  obtain ⟨t, rfl⟩ := encoded
  rw [reply_eq (Text.decode?_encode t) (stripsTo_stripLineEnd t)]
  split_ifs <;> rfl

theorem stderr_converse {lines : List (List UInt8)}
    (encoded : ∀ line ∈ lines, Text.IsEncoded line) : (converse lines).stderr = [] := by
  have noErrors : prompt.stderr = [] := rfl
  induction lines with
  | nil => rfl
  | cons line rest ih =>
    obtain ⟨here, others⟩ := List.forall_mem_cons.mp encoded
    have shown := stderr_reply here
    rw [converse]
    split
    next answered =>
      rw [answered, Reply.shown] at shown
      simp [noErrors, shown, ih others]
    next answered =>
      rw [answered, Reply.shown] at shown
      simp [noErrors, shown]

theorem stderr_session {input : List UInt8} (encoded : Text.IsEncoded input) :
    (session input).stderr = [] := by
  obtain ⟨lines, cut⟩ := exists_lineCut 10 input
  rw [session, ← cut.eq_byteLines, Transcript.stderr_append,
    stderr_converse (cut.isEncoded_iff.mp encoded)]
  rfl

section

variable {input : List UInt8} {earlier later : List (List UInt8)} {line : List UInt8}
  (cut : LineCut 10 input (earlier ++ line :: later))

include cut

theorem take_isEncoded_lt (unencoded : ¬ Text.IsEncoded line) {n : Nat}
    (encoded : Text.IsEncoded (input.take n)) :
    n < earlier.flatten.length + line.length := by
  by_contra far
  rw [not_lt] at far
  have ends : (earlier ++ [line]).flatten.length = earlier.flatten.length + line.length := by simp
  rw [List.append_cons] at cut
  by_cases final : later = []
  · -- The line ends the input, so that the prefix is all of it.
    rw [final, List.append_nil] at cut
    rw [← cut.flatten_eq, List.take_of_length_le (ends ▸ far), cut.flatten_eq] at encoded
    exact unencoded (cut.isEncoded_iff.mp encoded line (by simp))
  · obtain ⟨front, whole, -⟩ := cut.split final
    obtain ⟨lines, cutPrefix⟩ := exists_lineCut 10 (input.take n)
    have encodedLines := cutPrefix.isEncoded_iff.mp encoded
    rw [cutPrefix.eq_byteLines, ← cut.flatten_eq, List.flatten_append, List.take_append,
      List.take_of_length_le (ends ▸ far), front.byteLines_append whole] at encodedLines
    exact unencoded (encodedLines line (by simp))

theorem take_earlier : input.take earlier.flatten.length = earlier.flatten := by
  rw [← cut.flatten_eq, List.flatten_append, List.take_left]

theorem exists_longest_text (encoded : ∀ l ∈ earlier, Text.IsEncoded l)
    (unencoded : ¬ Text.IsEncoded line) :
    ∃ n, IsGreatest {n | n ≤ input.length ∧ Text.IsEncoded (input.take n)} n ∧
      earlier.flatten.length ≤ n ∧ n < earlier.flatten.length + line.length := by
  have fits : earlier.flatten.length ≤ input.length := by
    rw [← cut.flatten_eq]
    simp
  have start : Text.IsEncoded (input.take earlier.flatten.length) := by
    rw [take_earlier cut]
    exact Text.isEncoded_flatten encoded
  let isText n := Text.IsEncoded (input.take n)
  have isTextHere := Nat.findGreatest_spec (P := isText) fits start
  refine ⟨Nat.findGreatest isText input.length, ⟨⟨Nat.findGreatest_le _, isTextHere⟩, ?_⟩,
    Nat.le_findGreatest fits start, take_isEncoded_lt cut unencoded isTextHere⟩
  rintro n ⟨inside, isTextThere⟩
  exact Nat.le_findGreatest inside isTextThere

theorem session_of_unencoded (unencoded : ¬ Text.IsEncoded line)
    (stays : ∀ l ∈ earlier, ∃ t, Text.decode? l = some t ∧ ¬ AsksForEnd t) :
    session input = banner ++ (answers earlier ++ (prompt ++ readError)) := by
  obtain ⟨front, whole, back⟩ := cut.split (List.cons_ne_nil line later)
  have talk := session_append front whole stays (line :: later).flatten
  rw [← List.flatten_append, cut.flatten_eq, ← back.eq_byteLines, converse,
    reply_of_unencoded unencoded] at talk
  exact talk

theorem session_earlier
    (stays : ∀ l ∈ earlier, ∃ t, Text.decode? l = some t ∧ ¬ AsksForEnd t) :
    session earlier.flatten = banner ++ (answers earlier ++ (prompt ++ lineEnd)) := by
  obtain ⟨front, whole, -⟩ := cut.split (List.cons_ne_nil line later)
  exact session_eq front whole stays

end

end Shell

theorem undecodable_input_is_refused :
    (∀ (args : List Text) (settings : CommandLine.Settings) (path : Text)
        (files : Text → Except FileError (List UInt8)) (content stdin : List UInt8),
      CommandLine.parse args = .ok settings → settings.source = some (.file path) →
      files path = .ok content →
      let outcome := Program.outcome args files stdin
      (∀ source : Text, content = source.encode →
        let printout := run source (some path) (!settings.quiet)
        outcome = ⟨if printout.count = 0 then 0 else 1,
          { stdout := printout.stdout, reports := printout.reports }⟩) ∧
      (¬ Text.IsEncoded content →
        let message := "Error reading file '".toList ++ path ++ "': ".toList ++
          "stream did not contain valid UTF-8".toList
        outcome = ⟨1, { stderr := outcome.shown.stderr }⟩ ∧
        Program.joinLines outcome.shown.stderr = message ++ ['\n'] ∧
        ('\n' ∉ path → outcome.shown.stderr = [message]))) ∧
    (∀ source : Text, (Shell.session source.encode).stderr = []) ∧
    ∀ input : List UInt8, ¬ Text.IsEncoded input →
      ∃ earlier line later, Shell.LineCut 10 input (earlier ++ line :: later) ∧
        (∀ l ∈ earlier, Text.IsEncoded l) ∧ ¬ Text.IsEncoded line ∧
        (∃ n, IsGreatest {n | n ≤ input.length ∧ Text.IsEncoded (input.take n)} n ∧
          earlier.flatten.length ≤ n ∧ n < earlier.flatten.length + line.length) ∧
        ((∀ l ∈ earlier, ∀ t, Text.decode? l = some t → ¬ Shell.AsksForEnd t) →
          ∃ shown : Transcript,
            Shell.session earlier.flatten =
              Shell.banner ++ (shown ++ (Shell.prompt ++ Shell.lineEnd)) ∧
            shown.stderr = [] ∧
            ∀ input' line' later', Shell.LineCut 10 input' (earlier ++ line' :: later') →
              ¬ Text.IsEncoded line' →
              Shell.session input' = Shell.banner ++ (shown ++ (Shell.prompt ++
                { stderr :=
                  ["Error reading input: stream did not contain valid UTF-8".toList] }))) := by
  refine ⟨?_, ?_, ?_⟩
  · intro args settings path files content stdin parsed isFile held outcome
    constructor
    · rintro source rfl
      exact Program.outcome_of_text parsed isFile held stdin
    · intro unencoded message
      have refused : outcome = Program.unreadable path .notText :=
        Program.outcome_of_unencoded parsed isFile held unencoded stdin
      rw [refused]
      exact ⟨rfl, Program.joinLines_splitOn message,
        fun oneLine => Program.stderr_unreadable oneLine .notText⟩
  · exact fun source => Shell.stderr_session ⟨source, rfl⟩
  · intro input unencoded
    obtain ⟨lines, cut⟩ := Shell.exists_lineCut 10 input
    obtain ⟨earlier, line, later, rfl, encoded, wrong⟩ :=
      Shell.exists_first_unencoded (mt cut.isEncoded_iff.mpr unencoded)
    refine ⟨earlier, line, later, cut, encoded, wrong,
      Shell.exists_longest_text cut encoded wrong, ?_⟩
    intro stays
    have goesOn : ∀ l ∈ earlier, ∃ t, Text.decode? l = some t ∧ ¬ Shell.AsksForEnd t := by
      intro l member
      obtain ⟨t, decodes⟩ := Option.isSome_iff_exists.mp (Text.isEncoded_iff.mp (encoded l member))
      exact ⟨t, decodes, stays l member t decodes⟩
    have alone := Shell.session_earlier cut goesOn
    refine ⟨Shell.answers earlier, alone, ?_, ?_⟩
    · have noErrors := Shell.stderr_session (Text.isEncoded_flatten encoded)
      rw [alone] at noErrors
      simp only [Transcript.stderr_append, List.append_eq_nil_iff] at noErrors
      exact noErrors.2.1
    · intro input' line' later' cut' wrong'
      exact Shell.session_of_unencoded cut' wrong' goesOn

theorem undecodable_input_is_refused_cut_character :
    let name := "a.sp".toList
    let files := Directory.read [(name, [49, 0xC3])]
    let outcome := Program.outcome [name] files []
    let input : List UInt8 := [49, 10, 0xE2, 0x82, 10, 49, 10]
    CommandLine.parse [name] = .ok ⟨some (.file name), false, false⟩ ∧
      files name = .ok [49, 0xC3] ∧ ¬ Text.IsEncoded [49, 0xC3] ∧ ¬ Text.IsEncoded input ∧
      outcome.exitCode = 1 ∧
      outcome.shown.stderr =
        ["Error reading file '".toList ++ name ++ "': ".toList ++
          "stream did not contain valid UTF-8".toList] ∧
      (∃ n, IsGreatest {n | n ≤ 7 ∧ Text.IsEncoded (input.take n)} n ∧ 2 ≤ n ∧ n < 5) ∧
      ∃ shown : Transcript,
        Shell.session [49, 10] = Shell.banner ++ (shown ++ (Shell.prompt ++ Shell.lineEnd)) ∧
        Shell.session input = Shell.banner ++ (shown ++ (Shell.prompt ++ Shell.readError)) ∧
        Shell.session [49, 10, 0xC0, 0x80] = Shell.session input := by
  intro name files outcome input
  have parsed : CommandLine.parse [name] = .ok ⟨some (.file name), false, false⟩ := by decide
  have held : files name = .ok [49, 0xC3] := by decide
  have noText : ¬ Text.IsEncoded [49, 0xC3] := by decide
  have noText' : ¬ Text.IsEncoded input := by decide
  have cut : Shell.LineCut 10 input [[49, 10], [0xE2, 0x82, 10], [49, 10]] := by
    refine @Shell.LineCut.line _ 10 [49] _ _ (by decide) ?_
    refine @Shell.LineCut.line _ 10 [0xE2, 0x82] _ _ (by decide) ?_
    exact @Shell.LineCut.line _ 10 [49] _ _ (by decide) .nil
  have overlong : Shell.LineCut (10 : UInt8) [49, 10, 0xC0, 0x80] [[49, 10], [0xC0, 0x80]] := by
    refine @Shell.LineCut.line _ 10 [49] _ _ (by decide) ?_
    exact .last (by decide) (by decide)
  obtain ⟨ofFile, -, ofInput⟩ := undecodable_input_is_refused
  obtain ⟨-, refused⟩ := ofFile _ _ _ _ _ [] parsed rfl held
  obtain ⟨failed, -, message⟩ := refused noText
  obtain ⟨earlier, line, later, cut', encoded, wrong, longest, talk⟩ := ofInput input noText'
  have same := cut.unique cut'
  obtain ⟨rfl, rfl, rfl⟩ : earlier = [[49, 10]] ∧ line = [0xE2, 0x82, 10] ∧ later = [[49, 10]] := by
    match earlier with
    | [] =>
      obtain ⟨rfl, -⟩ := List.cons.inj same
      exact absurd (by decide) wrong
    | [first] => simpa [eq_comm] using same
    | first :: second :: _ =>
      obtain ⟨-, more⟩ := List.cons.inj same
      obtain ⟨rfl, -⟩ := List.cons.inj more
      exact absurd (encoded [0xE2, 0x82, 10] (by simp)) (by decide)
  obtain ⟨shown, alone, -, ended⟩ := talk (by decide)
  have here := ended _ _ _ cut wrong
  refine ⟨parsed, held, noText, noText', ?_, ?_, longest, shown, alone, here, ?_⟩
  · exact congrArg Outcome.exitCode failed
  · exact message (by decide)
  · exact (ended _ [0xC0, 0x80] [] overlong (by decide)).trans here.symm

end Sprout

import Mathlib.Data.Stream.Init
import Sprout.Proofs.Diagnostics

set_option autoImplicit false

namespace Sprout

inductive Request where
  | tokens (count : Nat)
  | drain
  | faults
  | position
deriving DecidableEq, Repr

inductive Answer where
  | tokens (given : List Token)
  | faults (recorded : List Diagnostic)
  | position (offset : Nat)
deriving DecidableEq, Repr

def Answer.given : Answer → List Token
  | tokens given => given
  | _ => []

/-- What a request takes from the stream: up to an end token, if it asks for no number of tokens. -/
inductive Portion (stream : Stream' Token) : Request → List Token → Prop where
  | tokens (count : Nat) : Portion stream (.tokens count) (stream.take count)
  | drain {before : Nat} (ends : (stream.get before).isEof = true)
      (goesOn : ∀ n < before, (stream.get n).isEof = false) :
      Portion stream .drain (stream.take (before + 1))
  | faults : Portion stream .faults []
  | position : Portion stream .position []

def Token.IsUnclosedIn (t : Token) (source : Text) : Prop :=
  t.kind = .string ∧ ∃ raw, source.drop t.position = '"' :: raw ∧ Units [] raw t.literal

namespace Scanner

def answer (s : Scanner) : Request → Answer × Scanner
  | .tokens count => (s.take count).map .tokens id
  | .drain => s.drain.map .tokens id
  | .faults => (.faults s.faults, s)
  | .position => (.position s.position, s)

def serve : List Request → Scanner → List Token × Scanner
  | [], s => ([], s)
  | request :: rest, s =>
    let (answer, after) := s.answer request
    (serve rest after).map (answer.given ++ ·) id

def stream (s : Scanner) : Stream' Token :=
  s.drain.1 ++ₛ Stream'.const ⟨.eof, [], s.position + s.rest.length⟩

theorem stream_ofText (source : Text) :
    (ofText source).stream = tokenize source ++ₛ Stream'.const ⟨.eof, [], source.length⟩ := by
  rw [stream, ofText, Nat.zero_add]
  rfl

-- All that one step can do: what follows about a step is read off here.
theorem next_cases (s : Scanner) :
    s.next = (⟨.eof, [], s.position + s.rest.length⟩,
        ⟨[], s.position + s.rest.length, s.faults⟩) ∨
      ∃ (blanks lexeme after : Text) (form : Form),
        s.rest = blanks ++ lexeme ++ after ∧ form.Admits lexeme after ∧
        s.next = (⟨form.kind, form.literal lexeme, s.position + blanks.length⟩,
          ⟨after, s.position + blanks.length + lexeme.length,
            s.faults ++ form.faults (s.position + blanks.length) lexeme⟩) := by
  obtain ⟨rest, position, faults⟩ := s
  obtain ⟨d, valid, rfl⟩ := Decomposition.exists_cuts rest
  cases d with
  | stop blanks => exact .inl (next_of_blank valid position faults)
  | item blanks lexeme form rest =>
    obtain ⟨blank, admits, -⟩ := valid
    exact .inr ⟨blanks, lexeme, rest.text, form, rfl, admits,
      next_of_admits blank admits position faults⟩

theorem next_end (s : Scanner) :
    s.next.2.position + s.next.2.rest.length = s.position + s.rest.length := by
  rcases s.next_cases with last | ⟨blanks, lexeme, after, form, same, -, found⟩
  · rw [last, List.length_nil, Nat.add_zero]
  · simp only [found, same, List.length_append]
    omega

theorem position_le_next (s : Scanner) : s.position ≤ s.next.2.position := by
  rcases s.next_cases with last | ⟨blanks, lexeme, after, form, -, -, found⟩
  · rw [last]
    exact Nat.le_add_right ..
  · rw [found]
    show s.position ≤ s.position + blanks.length + lexeme.length
    omega

theorem faults_isPrefix_next (s : Scanner) : s.faults <+: s.next.2.faults := by
  rcases s.next_cases with last | ⟨blanks, lexeme, after, form, -, -, found⟩
  · have same : s.next.2.faults = s.faults := by rw [last]
    exact same ▸ List.prefix_rfl
  · rw [found]
    exact List.prefix_append ..

theorem drain_of_end {s : Scanner} (ends : s.next.1.isEof = true) :
    s.drain = ([s.next.1], s.next.2) := by
  rw [drain, dif_neg (by simp [ends])]

theorem drain_of_more {s : Scanner} (more : s.next.1.isEof = false) :
    s.drain = s.next.2.drain.map (s.next.1 :: ·) id := by
  rw [drain, dif_pos more]

theorem next_of_end {s : Scanner} (ends : s.next.1.isEof = true) :
    s.next.1 = ⟨.eof, [], s.position + s.rest.length⟩ ∧ s.next.2.next = (s.next.1, s.next.2) := by
  rcases s.next_cases with last | ⟨blanks, lexeme, after, form, -, -, found⟩
  · have blank : IsBlankRun [] := by simp [IsBlankRun]
    rw [last]
    exact ⟨rfl, next_of_blank blank _ _⟩
  · rw [found] at ends
    exact absurd (beq_iff_eq.mp ends) form.kind_ne_eof

theorem stream_eq_cons (s : Scanner) : s.stream = Stream'.cons s.next.1 s.next.2.stream := by
  cases ends : s.next.1.isEof with
  | false => rw [stream, drain_of_more ends, stream, next_end]; rfl
  | true =>
    obtain ⟨last, again⟩ := next_of_end ends
    have drained : s.next.2.drain = ([s.next.1], s.next.2) := by
      rw [drain_of_end (by rw [again]; exact ends), again]
    rw [stream, drain_of_end ends, stream, drained, next_end, ← last]
    exact congrArg (Stream'.cons s.next.1) (Stream'.const_eq s.next.1)

theorem take_succ (s : Scanner) (count : Nat) :
    s.take (count + 1) = (s.next.2.take count).map (s.next.1 :: ·) id := rfl

theorem take_fst_eq (count : Nat) (s : Scanner) : (s.take count).1 = s.stream.take count := by
  induction count generalizing s with
  | zero => rfl
  | succ count ih =>
    rw [take_succ, stream_eq_cons, Stream'.take_succ_cons, ← ih]
    rfl

theorem stream_take_snd (count : Nat) (s : Scanner) :
    (s.take count).2.stream = s.stream.drop count := by
  induction count generalizing s with
  | zero => rfl
  | succ count ih =>
    rw [take_succ, stream_eq_cons s, Stream'.drop_succ, Stream'.tail_cons, ← ih]
    rfl

theorem take_add (m n : Nat) (s : Scanner) :
    s.take (m + n) = ((s.take m).2.take n).map ((s.take m).1 ++ ·) id := by
  induction m generalizing s with
  | zero =>
    rw [Nat.zero_add]
    rfl
  | succ m ih =>
    rw [Nat.succ_add_eq_add_succ, Nat.add_succ, take_succ, ih]
    rfl

theorem exists_drain_eq_take (s : Scanner) :
    ∃ before, (s.stream.get before).isEof = true ∧
      (∀ n < before, (s.stream.get n).isEof = false) ∧ s.drain = s.take (before + 1) := by
  induction s using drain.induct with
  | case1 s more ih =>
    obtain ⟨before, ends, goesOn, drained⟩ := ih
    refine ⟨before + 1, ?_, ?_, ?_⟩
    · rw [stream_eq_cons]
      exact ends
    · intro n less
      rw [stream_eq_cons]
      cases n with
      | zero => exact more
      | succ n => exact goesOn n (by omega)
    · rw [drain_of_more more, drained]
      rfl
  | case2 s noMore =>
    have ends : s.next.1.isEof = true := by simpa using noMore
    refine ⟨0, ?_, by simp, drain_of_end ends⟩
    rw [stream_eq_cons]
    exact ends

-- Whatever is asked for, the scanner takes as many steps as it hands out tokens.
theorem answer_eq_take (s : Scanner) (request : Request) :
    ∃ count, ((s.answer request).1.given, (s.answer request).2) = s.take count ∧
      Portion s.stream request (s.answer request).1.given := by
  cases request with
  | tokens count =>
    refine ⟨count, rfl, ?_⟩
    show Portion s.stream (.tokens count) (s.take count).1
    rw [take_fst_eq]
    exact .tokens count
  | drain =>
    obtain ⟨before, ends, goesOn, drained⟩ := s.exists_drain_eq_take
    refine ⟨before + 1, drained, ?_⟩
    show Portion s.stream .drain s.drain.1
    rw [drained, take_fst_eq]
    exact .drain ends goesOn
  | faults => exact ⟨0, rfl, .faults⟩
  | position => exact ⟨0, rfl, .position⟩

theorem exists_serve_eq_take (requests : List Request) (s : Scanner) :
    ∃ count, s.serve requests = s.take count := by
  induction requests generalizing s with
  | nil => exact ⟨0, rfl⟩
  | cons request rest ih =>
    obtain ⟨first, taken, -⟩ := s.answer_eq_take request
    obtain ⟨later, served⟩ := ih (s.answer request).2
    refine ⟨first + later, ?_⟩
    rw [take_add, ← taken, ← served]
    rfl

theorem length_take (count : Nat) (s : Scanner) : (s.take count).1.length = count := by
  rw [take_fst_eq, Stream'.length_take]

theorem serve_eq_take (requests : List Request) (s : Scanner) :
    s.serve requests = s.take (s.serve requests).1.length := by
  obtain ⟨count, served⟩ := s.exists_serve_eq_take requests
  rw [served, length_take]

theorem position_le_take (count : Nat) (s : Scanner) : s.position ≤ (s.take count).2.position := by
  induction count generalizing s with
  | zero => exact le_rfl
  | succ count ih => exact le_trans s.position_le_next (ih s.next.2)

theorem faults_isPrefix_take (count : Nat) (s : Scanner) :
    s.faults <+: (s.take count).2.faults := by
  induction count generalizing s with
  | zero => exact List.prefix_rfl
  | succ count ih => exact s.faults_isPrefix_next.trans (ih s.next.2)

theorem next_of_finished {s : Scanner} (finished : s.rest = []) :
    s.next = (⟨.eof, [], s.position⟩, s) := by
  obtain ⟨rest, position, faults⟩ := s
  obtain rfl : rest = [] := finished
  have blank : IsBlankRun [] := by simp [IsBlankRun]
  exact next_of_blank blank position faults

theorem take_of_finished {s : Scanner} (finished : s.rest = []) (count : Nat) :
    (s.take count).2 = s ∧ ∀ t ∈ (s.take count).1, t = ⟨.eof, [], s.position⟩ := by
  induction count with
  | zero => exact ⟨rfl, by simp [take]⟩
  | succ count ih =>
    rw [take_succ, next_of_finished finished]
    exact ⟨ih.1, List.forall_mem_cons.mpr ⟨rfl, ih.2⟩⟩

end Scanner

theorem Form.Admits.isUnclosedIn_iff {form : Form} {lexeme after : Text}
    (admits : form.Admits lexeme after) (front : Text) :
    Token.IsUnclosedIn ⟨form.kind, form.literal lexeme, front.length⟩ (front ++ lexeme ++ after) ↔
      ∃ value, form = .openString value := by
  have behind : (front ++ lexeme ++ after).drop front.length = lexeme ++ after := by
    rw [List.append_assoc, List.drop_left]
  constructor
  · rintro ⟨string, raw, same, units⟩
    cases form with
    | openString value => exact ⟨value, rfl⟩
    | closedString value =>
      -- The lexeme would be both the closed string and the open one.
      have unclosed : (Form.openString value).Admits ('"' :: raw) [] := ⟨⟨raw, rfl, units⟩, by simp⟩
      obtain ⟨-, different, -⟩ :=
        admits.unique unclosed (by rw [← behind, same, List.append_nil])
      cases different
    | _ => simp [Form.kind] at string
  · rintro ⟨value, rfl⟩
    have last := admits.after_eq_nil
    obtain ⟨raw, rfl, units⟩ := admits.1
    refine ⟨rfl, raw, ?_, units⟩
    rw [behind, last, List.append_nil]

theorem Form.faults_eq_nil {form : Form} (closed : ∀ value, form ≠ .openString value) (start : Nat)
    (lexeme : Text) : form.faults start lexeme = [] := by
  cases form with
  | openString value => exact absurd rfl (closed value)
  | _ => rfl

namespace Scanner

def StandsIn (s : Scanner) (source : Text) : Prop :=
  ∃ front, source = front ++ s.rest ∧ s.position = front.length

theorem StandsIn.next {s : Scanner} {source : Text} (stands : s.StandsIn source) :
    s.next.2.StandsIn source := by
  obtain ⟨front, whole, position⟩ := stands
  rcases s.next_cases with last | ⟨blanks, lexeme, after, form, same, -, found⟩
  · refine ⟨source, ?_, ?_⟩
    · rw [last, List.append_nil]
    · rw [last, whole, List.length_append, position]
  · refine ⟨front ++ (blanks ++ lexeme), ?_, ?_⟩
    · simp only [found, whole, same, List.append_assoc]
    · simp only [found, position, List.length_append]
      omega

theorem StandsIn.next_faults {s : Scanner} {source : Text} (stands : s.StandsIn source) :
    (s.next.1.IsUnclosedIn source ∧ s.next.2.rest = [] ∧
        s.next.2.faults =
          s.faults ++ [.unterminatedString ⟨s.next.1.position, source.length⟩]) ∨
      ¬ s.next.1.IsUnclosedIn source ∧ s.next.2.faults = s.faults := by
  obtain ⟨front, whole, position⟩ := stands
  rcases s.next_cases with last | ⟨blanks, lexeme, after, form, same, admits, found⟩
  · rw [last]
    refine .inr ⟨?_, rfl⟩
    rintro ⟨string, -⟩
    cases string
  · have cut : source = front ++ blanks ++ lexeme ++ after := by
      rw [whole, same]
      simp only [List.append_assoc]
    have start : s.position + blanks.length = (front ++ blanks).length := by
      rw [position, List.length_append]
    have shows := admits.isUnclosedIn_iff (front ++ blanks)
    rw [← cut, ← start] at shows
    rw [found]
    by_cases unclosed : ∃ value, form = .openString value
    next =>
      refine .inl ⟨shows.mpr unclosed, ?_⟩
      obtain ⟨value, rfl⟩ := unclosed
      have last := admits.after_eq_nil
      have length : source.length = s.position + blanks.length + lexeme.length := by
        rw [cut, last, List.append_nil, List.length_append, start]
      rw [last, length]
      exact ⟨rfl, rfl⟩
    next =>
      refine .inr ⟨mt shows.mp unclosed, ?_⟩
      rw [Form.faults_eq_nil fun value same => unclosed ⟨value, same⟩]
      exact List.append_nil _

structure Reached (source : Text) (given : List Token) (s : Scanner) : Prop where
  stands : s.StandsIn source
  record : (s.faults = [] ∧ ∀ t ∈ given, ¬ t.IsUnclosedIn source) ∨
    ∃ t ∈ given, t.IsUnclosedIn source ∧
      s.faults = [.unterminatedString ⟨t.position, source.length⟩] ∧ s.rest = []

theorem Reached.next {source : Text} {given : List Token} {s : Scanner}
    (reached : Reached source given s) : Reached source (given ++ [s.next.1]) s.next.2 := by
  refine ⟨reached.stands.next, ?_⟩
  rcases reached.record with ⟨none, closed⟩ | ⟨t, member, unclosed, single, finished⟩
  · rcases reached.stands.next_faults with ⟨unclosed, finished, added⟩ | ⟨noFault, same⟩
    · rw [none] at added
      exact .inr ⟨s.next.1, by simp, unclosed, added, finished⟩
    · refine .inl ⟨same.trans none, ?_⟩
      rw [List.forall_mem_append, List.forall_mem_singleton]
      exact ⟨closed, noFault⟩
  · rw [next_of_finished finished]
    exact .inr ⟨t, List.mem_append_left _ member, unclosed, single, finished⟩

theorem Reached.take {source : Text} {given : List Token} {s : Scanner}
    (reached : Reached source given s) (count : Nat) :
    Reached source (given ++ (s.take count).1) (s.take count).2 := by
  induction count generalizing given s with
  | zero => simpa [Scanner.take] using reached
  | succ count ih =>
    have later := ih reached.next
    rw [List.append_assoc] at later
    exact later

theorem reached_ofText (source : Text) : Reached source [] (ofText source) where
  stands := ⟨[], rfl, rfl⟩
  record := .inl ⟨rfl, by simp⟩

theorem StandsIn.rest_eq {s : Scanner} {source : Text} (stands : s.StandsIn source) :
    s.rest = source.drop s.position := by
  obtain ⟨front, whole, position⟩ := stands
  rw [whole, position, List.drop_left]

theorem standsIn_serve (source : Text) (requests : List Request) :
    ((ofText source).serve requests).2.StandsIn source := by
  rw [serve_eq_take]
  exact ((reached_ofText source).take _).stands

end Scanner

theorem requests_share_one_stream (source : Text) (requests : List Request) :
    let stream := tokenize source ++ₛ Stream'.const ⟨.eof, [], source.length⟩
    let given := ((Scanner.ofText source).serve requests).1
    let s := ((Scanner.ofText source).serve requests).2
    (given = stream.take given.length ∧
      (∀ request, Portion (stream.drop given.length) request (s.answer request).1.given) ∧
      ∀ others, ((Scanner.ofText source).serve others).1.length = given.length →
        (Scanner.ofText source).serve others = (given, s)) ∧
    ((s.faults = [] ∧ ∀ t ∈ given, ¬ t.IsUnclosedIn source) ∨
      ∃ t ∈ given, t.IsUnclosedIn source ∧
        s.faults = [.unterminatedString ⟨t.position, source.length⟩]) ∧
    (∀ later, s.faults <+: (s.serve later).2.faults ∧ s.position ≤ (s.serve later).2.position ∧
      (s.faults ≠ [] → (s.serve later).2.position = source.length ∧
        ∀ t ∈ (s.serve later).1, t = ⟨.eof, [], source.length⟩)) ∧
    s.answer .faults = (.faults s.faults, s) ∧ s.answer .position = (.position s.position, s) := by
  intro stream given s
  have served := (Scanner.ofText source).serve_eq_take requests
  have givenEq : given = ((Scanner.ofText source).take given.length).1 := congrArg Prod.fst served
  have reachedEq : s = ((Scanner.ofText source).take given.length).2 := congrArg Prod.snd served
  have reached := (Scanner.reached_ofText source).take given.length
  rw [List.nil_append, ← givenEq, ← reachedEq] at reached
  have whole : (Scanner.ofText source).stream = stream := Scanner.stream_ofText source
  have left : s.stream = stream.drop given.length := by
    rw [reachedEq, Scanner.stream_take_snd, whole]
  refine ⟨⟨?_, ?_, ?_⟩, ?_, ?_, rfl, rfl⟩
  · rw [← whole, ← Scanner.take_fst_eq]
    exact givenEq
  · intro request
    obtain ⟨-, -, portion⟩ := s.answer_eq_take request
    rwa [← left]
  · intro others same
    rw [Scanner.serve_eq_take others, same]
    exact served.symm
  · apply reached.record.imp_right
    rintro ⟨t, member, unclosed, single, -⟩
    exact ⟨t, member, unclosed, single⟩
  · intro later
    rw [Scanner.serve_eq_take later]
    refine ⟨Scanner.faults_isPrefix_take _ s, Scanner.position_le_take _ s, ?_⟩
    intro recorded
    obtain ⟨-, -, -, -, finished⟩ := reached.record.resolve_left fun none => recorded none.1
    obtain ⟨front, cut, position⟩ := reached.stands
    have atEnd : s.position = source.length := by
      rw [cut, finished, List.append_nil, position]
    obtain ⟨same, ends⟩ := Scanner.take_of_finished finished (s.serve later).1.length
    rw [same, ← atEnd]
    exact ⟨rfl, ends⟩

theorem requests_share_one_stream_open_string :
    let requests : List Request := [.tokens 1, .faults, .tokens 1]
    let s := ((Scanner.ofText ['=', '"']).serve requests).2
    s.faults = [.unterminatedString ⟨1, 2⟩] ∧
      (s.serve [.drain, .tokens 2]).2.position = 2 ∧
      (∀ t ∈ (s.serve [.drain, .tokens 2]).1, t = ⟨.eof, [], 2⟩) ∧
      (Scanner.ofText ['=', '"']).serve [.tokens 2] = (Scanner.ofText ['=', '"']).serve requests := by
  intro requests s
  have recorded : s.faults = [.unterminatedString ⟨1, 2⟩] := by decide
  obtain ⟨⟨-, -, batches⟩, -, later, -⟩ := requests_share_one_stream ['=', '"'] requests
  obtain ⟨-, -, latched⟩ := later [.drain, .tokens 2]
  obtain ⟨position, ends⟩ := latched (by rw [recorded]; simp)
  exact ⟨recorded, position, ends, batches [.tokens 2] (by decide)⟩

end Sprout

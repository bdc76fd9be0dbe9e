import Mathlib.Data.List.Basic
import Sprout.Proofs.Diagnostics
import Sprout.Proofs.Escaping
import Sprout.Shell

set_option autoImplicit false

namespace Sprout

namespace Text

theorem trim_append {body ends : Text} (spaces : ∀ c ∈ ends, whitespace.contains c = true) :
    trim (body ++ ends) = trim body := by
  have skipped : ends.dropWhile whitespace.contains = [] := List.dropWhile_eq_nil_iff.mpr spaces
  rw [trim, trim, List.dropWhile_append]
  split
  next blank => rw [skipped, List.isEmpty_iff.mp blank]
  next =>
    have spaces' : ∀ c ∈ ends.reverse, whitespace.contains c = true := by simpa using spaces
    rw [List.reverse_append, List.dropWhile_append_of_pos spaces']

end Text

namespace Transcript

theorem append_assoc (a b c : Transcript) : a ++ b ++ c = a ++ (b ++ c) := by
  change (⟨_, _, _⟩ : Transcript) = ⟨_, _, _⟩
  simp

end Transcript

namespace Shell

/-- A line feed ends each line, but the last may lack one. -/
inductive LineCut {α : Type} (feed : α) : List α → List (List α) → Prop where
  | nil : LineCut feed [] []
  | last {body : List α} (solid : body ≠ []) (plain : feed ∉ body) : LineCut feed body [body]
  | line {body rest : List α} {lines : List (List α)} (plain : feed ∉ body)
      (more : LineCut feed rest lines) :
      LineCut feed (body ++ feed :: rest) ((body ++ [feed]) :: lines)

theorem exists_lineCut {α : Type} [DecidableEq α] (feed : α) (items : List α) :
    ∃ lines, LineCut feed items lines := by
  induction items with
  | nil => exact ⟨[], .nil⟩
  | cons a rest ih =>
    obtain ⟨lines, cut⟩ := ih
    by_cases isFeed : a = feed
    next =>
      rw [isFeed]
      exact ⟨_, .line List.not_mem_nil cut⟩
    next =>
      have plain : ∀ {body}, feed ∉ body → feed ∉ a :: body := by
        intro body more
        simp [Ne.symm isFeed, more]
      cases cut with
      | nil => exact ⟨[[a]], .last (by simp) (plain List.not_mem_nil)⟩
      | @last body solid more => exact ⟨[a :: rest], .last (by simp) (plain more)⟩
      | line more cut => exact ⟨_, .line (plain more) cut⟩

theorem LineCut.unique {α : Type} {feed : α} {items : List α} {lines lines' : List (List α)}
    (first : LineCut feed items lines) (second : LineCut feed items lines') : lines = lines' := by
  induction first generalizing lines' with
  | nil =>
    generalize whole : [] = items at second
    cases second with
    | nil => rfl
    | last solid => exact absurd whole.symm solid
    | line => simp at whole
  | @last body solid plain =>
    cases second with
    | nil => exact absurd rfl solid
    | last => rfl
    | line => simp at plain
  | @line body rest lines plain more ih =>
    generalize whole : body ++ feed :: rest = items at second
    cases second with
    | nil => simp at whole
    | last solid plain' => exact absurd (by simp [← whole]) plain'
    | line plain' more' =>
      obtain ⟨rfl, rfl⟩ := cut_unique plain plain' whole
      rw [ih more']

theorem byteLines_feed (rest : List UInt8) : byteLines (10 :: rest) = [10] :: byteLines rest := rfl

theorem byteLines_plain {b : UInt8} (plain : b ≠ 10) (rest : List UInt8) :
    byteLines (b :: rest) = Text.extendFirst b (byteLines rest) := by
  rw [byteLines]
  exact plain

theorem byteLines_body_append {body rest line : List UInt8} {more : List (List UInt8)}
    (plain : 10 ∉ body) (cut : byteLines rest = line :: more) :
    byteLines (body ++ rest) = (body ++ line) :: more := by
  induction body with
  | nil => exact cut
  | cons b body ih =>
    rw [List.mem_cons, not_or] at plain
    rw [List.cons_append, byteLines_plain (Ne.symm plain.1), ih plain.2]
    rfl

theorem LineCut.eq_byteLines {bytes : List UInt8} {lines : List (List UInt8)}
    (cut : LineCut 10 bytes lines) : lines = byteLines bytes := by
  induction cut with
  | nil => rfl
  | @last body solid plain =>
    obtain ⟨front, b, rfl⟩ := (List.eq_nil_or_concat' body).resolve_left solid
    rw [List.mem_append, not_or, List.mem_singleton] at plain
    rw [byteLines_body_append plain.1 (byteLines_plain (Ne.symm plain.2) [])]
  | line plain more ih => rw [ih, byteLines_body_append plain (byteLines_feed _)]

theorem LineCut.byteLines_append {first : List UInt8} {lines : List (List UInt8)}
    (cut : LineCut 10 first lines) (whole : first = [] ∨ first.getLast? = some 10)
    (later : List UInt8) : byteLines (first ++ later) = lines ++ byteLines later := by
  induction cut with
  | nil => rfl
  | @last body solid plain =>
    exact absurd (List.mem_of_getLast? (whole.resolve_left solid)) plain
  | @line body rest lines plain more ih =>
    have wholeRest : rest = [] ∨ rest.getLast? = some 10 := by
      cases rest with
      | nil => exact .inl rfl
      | cons b rest => simpa using whole
    rw [List.append_assoc, List.cons_append,
      byteLines_body_append plain (byteLines_feed _), ih wholeRest, List.cons_append]

structure StripsTo (line body : Text) : Prop where
  stripped : ∃ ends, line = body ++ ends ∧ ∀ c ∈ ends, c = '\n' ∨ c = '\r'
  solid : ∀ c, body.getLast? = some c → c ≠ '\n' ∧ c ≠ '\r'

theorem StripsTo.stripLineEnd_eq {line body : Text} (strips : StripsTo line body) :
    stripLineEnd line = body := by
  obtain ⟨⟨ends, rfl, feeds⟩, solid⟩ := strips
  have inside : ∀ c ∈ ends.reverse, (c == '\n' || c == '\r') = true := by simpa using feeds
  have stops : ∀ c, body.reverse.head? = some c → (c == '\n' || c == '\r') = false := by
    simpa using solid
  rw [stripLineEnd, List.reverse_append, (span_run inside stops).2, List.reverse_reverse]

theorem stripsTo_stripLineEnd (line : Text) : StripsTo line (stripLineEnd line) := by
  let feed : Char → Bool := fun c => c == '\n' || c == '\r'
  have whole := line.reverse.takeWhile_append_dropWhile (p := feed)
  refine ⟨⟨(line.reverse.takeWhile feed).reverse, ?_, ?_⟩, ?_⟩
  · rw [stripLineEnd, ← List.reverse_append, whole, List.reverse_reverse]
  · intro c member
    simpa [feed] using List.mem_takeWhile_imp (List.mem_reverse.mp member)
  · intro c last
    rw [stripLineEnd, List.getLast?_reverse] at last
    simpa using head?_afterRun last

theorem StripsTo.trim_eq {line body : Text} (strips : StripsTo line body) :
    body.trim = line.trim := by
  obtain ⟨⟨ends, rfl, feeds⟩, -⟩ := strips
  have spaces : ∀ c ∈ ends, Text.whitespace.contains c = true := by
    intro c member
    rcases feeds c member with rfl | rfl <;> decide
  exact (Text.trim_append spaces).symm

def AsksForEnd (line : Text) : Prop :=
  line.trim = "exit".toList ∨ line.trim = "quit".toList

instance (line : Text) : Decidable (AsksForEnd line) := inferInstanceAs (Decidable (_ ∨ _))

def shownFor (source : Text) : Transcript where
  stdout := (run source none true).stdout
  reports := (run source none true).reports

theorem answer_eq {line body : Text} (strips : StripsTo line body) :
    answer line =
      if line.trim = [] then .goOn {}
      else if AsksForEnd line then .stop farewell
      else .goOn (shownFor body) := by
  simp only [answer, strips.stripLineEnd_eq, strips.trim_eq]
  rfl

def Reply.shown : Reply → Transcript
  | .goOn shown => shown
  | .stop shown => shown

def answers : List (List UInt8) → Transcript
  | [] => {}
  | line :: rest => prompt ++ (reply line).shown ++ answers rest

theorem converse_append {lines : List (List UInt8)}
    (goesOn : ∀ line ∈ lines, reply line = .goOn (reply line).shown) (later : List (List UInt8)) :
    converse (lines ++ later) = answers lines ++ converse later := by
  induction lines with
  | nil => rfl
  | cons line rest ih =>
    have here := goesOn line (List.mem_cons_self ..)
    have more := ih fun other member => goesOn other (List.mem_cons_of_mem line member)
    rw [List.cons_append, converse, here, more, answers, Transcript.append_assoc]

def IsLine (line : List UInt8) : Prop := ∃ body, line = body ++ [10] ∧ 10 ∉ body

theorem IsLine.byteLines_append {line : List UInt8} (isLine : IsLine line) (later : List UInt8) :
    byteLines (line ++ later) = line :: byteLines later := by
  obtain ⟨body, rfl, plain⟩ := isLine
  rw [List.append_assoc]
  exact byteLines_body_append plain (byteLines_feed later)

theorem reply_eq {line : List UInt8} {t body : Text} (decodes : Text.decode? line = some t)
    (strips : StripsTo t body) :
    reply line =
      if t.trim = [] then .goOn {}
      else if AsksForEnd t then .stop farewell
      else .goOn (shownFor body) := by
  rw [reply, decodes]
  exact answer_eq strips

theorem reply_goesOn {line : List UInt8} {t : Text} (decodes : Text.decode? line = some t)
    (stays : ¬ AsksForEnd t) : reply line = .goOn (reply line).shown := by
  rw [reply_eq decodes (stripsTo_stripLineEnd t), if_neg stays]
  split <;> rfl

theorem session_append {first : List UInt8} {lines : List (List UInt8)}
    (cut : LineCut 10 first lines) (whole : first = [] ∨ first.getLast? = some 10)
    (goesOn : ∀ line ∈ lines, ∃ t, Text.decode? line = some t ∧ ¬ AsksForEnd t)
    (later : List UInt8) :
    session (first ++ later) = banner ++ (answers lines ++ converse (byteLines later)) := by
  rw [session, cut.byteLines_append whole, converse_append]
  intro line member
  obtain ⟨t, decodes, stays⟩ := goesOn line member
  exact reply_goesOn decodes stays

theorem session_eq {first : List UInt8} {lines : List (List UInt8)}
    (cut : LineCut 10 first lines) (whole : first = [] ∨ first.getLast? = some 10)
    (goesOn : ∀ line ∈ lines, ∃ t, Text.decode? line = some t ∧ ¬ AsksForEnd t) :
    session first = banner ++ (answers lines ++ (prompt ++ lineEnd)) := by
  have talk := session_append cut whole goesOn []
  rwa [List.append_nil] at talk

end Shell

end Sprout

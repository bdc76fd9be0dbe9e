import Sprout.Proofs.Cursor

set_option autoImplicit false

namespace Sprout

namespace Cursor

def behind (front rest : Text) (faults : List Diagnostic) : Cursor :=
  ⟨front ++ rest, front.length, rest.head?, faults⟩

variable {front rest : Text} {faults : List Diagnostic} {first : Char}

theorem getElem?_behind (front rest : Text) : (front ++ rest)[front.length]? = rest.head? := by
  rw [List.getElem?_append_right le_rfl, Nat.sub_self, List.head?_eq_getElem?]

theorem getElem?_succ_behind (front : Text) (first : Char) (rest : Text) :
    (front ++ first :: rest)[front.length + 1]? = rest.head? := by
  have next := getElem?_behind (front ++ [first]) rest
  rwa [← List.append_cons, List.length_append, List.length_singleton] at next

theorem advance_behind :
    (behind front (first :: rest) faults).advance = behind (front ++ [first]) rest faults := by
  have inside : front.length < (front ++ first :: rest).length := by simp
  unfold advance behind
  dsimp only
  rw [if_pos inside, getElem?_succ_behind, ← List.append_cons, List.length_append,
    List.length_singleton]

theorem peek_behind : (behind front (first :: rest) faults).peek = rest.head? :=
  getElem?_succ_behind front first rest

theorem slice?_behind (front lexeme rest : Text) (faults : List Diagnostic) :
    (behind (front ++ lexeme) rest faults).slice? front.length (front ++ lexeme).length =
      some lexeme := by
  have bounds : front.length ≤ (front ++ lexeme).length ∧
      (front ++ lexeme).length ≤ (front ++ lexeme ++ rest).length := by
    simp
  rw [slice?, behind, if_pos bounds, List.take_left, List.drop_left]

theorem skipWhile_behind (p : Char → Bool) (front rest : Text) (faults : List Diagnostic) :
    (behind front rest faults).skipWhile p =
      behind (front ++ rest.takeWhile p) (rest.dropWhile p) faults := by
  induction rest generalizing front with
  | nil =>
    rw [skipWhile, dif_neg (by simp [behind])]
    simp
  | cons first rest ih =>
    cases inside : p first with
    | true =>
      have more : (behind front (first :: rest) faults).current.any p = true := inside
      rw [skipWhile, dif_pos more, advance_behind, ih, List.takeWhile_cons_of_pos inside,
        List.dropWhile_cons_of_pos inside, List.append_assoc, List.singleton_append]
    | false =>
      have stops : ¬ p first = true := by simp [inside]
      have done : ¬ (behind front (first :: rest) faults).current.any p = true := stops
      rw [skipWhile, dif_neg done, List.takeWhile_cons_of_neg stops,
        List.dropWhile_cons_of_neg stops, List.append_nil]

theorem onEscape_behind : (behind front (first :: rest) faults).onEscape =
    (first == '\\' && rest.head?.any fun next => decide (next ∈ escapable)) := by
  rw [onEscape, peek_behind]
  rfl

theorem skipString_behind (front rest : Text) (faults : List Diagnostic) :
    (behind front rest faults).skipString =
      behind (front ++ (spanContent rest).1) (spanContent rest).2 faults := by
  induction rest using spanContent.induct generalizing front with
  | case1 =>
    rw [skipString, dif_neg (by simp [behind])]
    simp [spanContent]
  | case2 rest =>
    rw [skipString, dif_neg (by simp [behind])]
    simp [spanContent]
  | case3 c rest known ih =>
    have more : (behind front ('\\' :: c :: rest) faults).current.any (· != '"') = true := by
      simp [behind]
    have escape : (behind front ('\\' :: c :: rest) faults).onEscape = true := by
      simp [onEscape_behind, known]
    rw [skipString, dif_pos more, dif_pos escape, advance_behind, advance_behind, ih]
    simp [spanContent, known]
  | case4 c rest unknown ih =>
    have more : (behind front ('\\' :: c :: rest) faults).current.any (· != '"') = true := by
      simp [behind]
    have other : ¬ (behind front ('\\' :: c :: rest) faults).onEscape = true := by
      simp [onEscape_behind, unknown]
    rw [skipString, dif_pos more, dif_neg other, advance_behind, ih]
    simp [spanContent, unknown]
  | case5 c rest notQuote notEscape ih =>
    have more : (behind front (c :: rest) faults).current.any (· != '"') = true := by
      simpa [behind] using notQuote
    have other : ¬ (behind front (c :: rest) faults).onEscape = true := by
      rw [onEscape_behind]
      cases rest with
      | nil => simp
      | cons d rest =>
        have solid : c ≠ '\\' := fun backslash => notEscape d rest backslash rfl
        simp [solid]
    rw [skipString, dif_pos more, dif_neg other, advance_behind, ih, spanContent]
    · simp
    · exact notQuote
    · exact notEscape

theorem mark?_behind (front lexeme rest : Text) (faults : List Diagnostic) (kind : Kind) :
    (behind (front ++ lexeme) (first :: rest) faults).mark? kind front.length =
      some (⟨kind, lexeme ++ [first], front.length⟩, behind (front ++ (lexeme ++ [first])) rest faults) := by
  rw [mark?, advance_behind, List.append_assoc]
  exact congrArg (Option.map _) (slice?_behind front (lexeme ++ [first]) rest faults)

theorem run?_behind (p : Char → Bool) (kind : Text → Kind) (front rest : Text)
    (faults : List Diagnostic) :
    (behind front rest faults).run? p kind front.length =
      some (⟨kind (rest.takeWhile p), rest.takeWhile p, front.length⟩,
        behind (front ++ rest.takeWhile p) (rest.dropWhile p) faults) := by
  rw [run?, skipWhile_behind]
  exact congrArg (Option.map _) (slice?_behind front (rest.takeWhile p) _ faults)

theorem either_behind (second : Char) (both one : Symbol) :
    (behind front (first :: rest) faults).either second both one =
      if rest.head? = some second then (both, behind (front ++ [first]) rest faults)
      else (one, behind front (first :: rest) faults) := by
  rw [either, peek_behind, advance_behind]

theorem symbol?_of_not_mark (c : Cursor) (other : first ∉ marks) : c.symbol? first = none := by
  unfold symbol?
  split
  case h_18 => rfl
  all_goals exact absurd (by decide : _ ∈ marks) other

theorem symbol?_of_leading {s : Symbol} (known : Symbol.leading? (first :: rest) = some s) :
    ∃ begun last after, s.text = begun ++ [last] ∧ s.text ++ after = first :: rest ∧
      (behind front (first :: rest) faults).symbol? first =
        some (s, behind (front ++ begun) (last :: after) faults) := by
  obtain ⟨after, same⟩ := Symbol.text_isPrefix_of_leading? known
  rw [← same, Symbol.leading?_text_append_iff] at known
  have limit (extended : (Kind.symbol s).extendedBy '=' = true) : after.head? ≠ some '=' := by
    intro next
    rw [known '=' next] at extended
    cases extended
  cases s
  case eq =>
    refine ⟨['='], '=', after, rfl, same, ?_⟩
    obtain ⟨rfl, rfl⟩ := List.cons.inj same
    simp [symbol?, either_behind]
  case notEq =>
    refine ⟨['!'], '=', after, rfl, same, ?_⟩
    obtain ⟨rfl, rfl⟩ := List.cons.inj same
    simp [symbol?, either_behind]
  case assign =>
    refine ⟨[], _, after, rfl, same, ?_⟩
    obtain ⟨rfl, rfl⟩ := List.cons.inj same
    simp [symbol?, either_behind, limit rfl]
  case bang =>
    refine ⟨[], _, after, rfl, same, ?_⟩
    obtain ⟨rfl, rfl⟩ := List.cons.inj same
    simp [symbol?, either_behind, limit rfl]
  all_goals
    refine ⟨[], _, after, rfl, same, ?_⟩
    obtain ⟨rfl, rfl⟩ := List.cons.inj same
    simp [symbol?]

theorem lexeme?_of_leading {s : Symbol} (known : Symbol.leading? (first :: rest) = some s) :
    (behind front (first :: rest) faults).lexeme? first =
      some (⟨.symbol s, s.text, front.length⟩,
        behind (front ++ s.text) ((first :: rest).drop s.text.length) faults) := by
  obtain ⟨begun, last, after, text, whole, found⟩ := @symbol?_of_leading front rest faults first s known
  rw [lexeme?, found, ← whole, List.drop_left, text]
  exact mark?_behind front begun after faults (.symbol s)

theorem closeString_behind (start : Nat) : (behind front rest faults).closeString start =
    match rest with
    | [] => behind front [] (faults ++ [.unterminatedString ⟨start, front.length⟩])
    | first :: rest => behind (front ++ [first]) rest faults := by
  cases rest with
  | nil => simp [closeString, behind]
  | cons first rest => exact advance_behind

theorem string?_behind :
    (behind front ('"' :: rest) faults).string? front.length =
      some ((Lexeme.readString rest).1.token front.length,
        behind (front ++ (Lexeme.readString rest).1.text) (Lexeme.readString rest).2
          (faults ++ (Lexeme.readString rest).1.faults front.length)) := by
  have slice := slice?_behind (front ++ ['"']) (spanContent rest).1 (spanContent rest).2 faults
  rw [string?, advance_behind, skipString_behind]
  refine (congrArg (Option.map _) slice).trans ?_
  rw [Option.map_some, closeString_behind, Lexeme.readString]
  rcases found : spanContent rest with ⟨raw, _ | ⟨c, after⟩⟩
  · simp [Lexeme.token, Lexeme.kind, Lexeme.literal, Lexeme.text, Lexeme.faults]
  · obtain rfl := head?_spanContent (congrArg Prod.snd found)
    simp [Lexeme.token, Lexeme.kind, Lexeme.literal, Lexeme.text, Lexeme.faults]

theorem lexeme?_behind :
    (behind front (first :: rest) faults).lexeme? first =
      some ((Lexeme.read first rest).1.token front.length,
        behind (front ++ (Lexeme.read first rest).1.text) (Lexeme.read first rest).2
          (faults ++ (Lexeme.read first rest).1.faults front.length)) := by
  cases known : Symbol.leading? (first :: rest) with
  | some s =>
    rw [lexeme?_of_leading known, Lexeme.read, known]
    simp [Lexeme.token, Lexeme.kind, Lexeme.literal, Lexeme.text, Lexeme.faults]
  | none =>
    have other := (Symbol.leading?_eq_none_iff first rest).mp known
    have position : (behind front (first :: rest) faults).position = front.length := rfl
    rw [lexeme?, symbol?_of_not_mark _ other, Lexeme.read, known, position]
    split_ifs with quote word digit
    · subst quote
      exact string?_behind
    · have begins := isWordPart_of_isWordStart word
      simp [run?_behind, begins, Lexeme.token, Lexeme.kind, Lexeme.literal, Lexeme.text, Lexeme.faults]
    · simp [run?_behind, digit, Lexeme.token, Lexeme.kind, Lexeme.literal, Lexeme.text, Lexeme.faults]
    · have marked := @mark?_behind first front [] rest faults .illegal
      rw [List.append_nil] at marked
      simp [marked, Lexeme.token, Lexeme.kind, Lexeme.literal, Lexeme.text, Lexeme.faults]

def holding (source : Text) (s : Scanner) : Cursor := ⟨source, s.position, s.rest.head?, s.faults⟩

variable {source : Text} {s : Scanner}

theorem next?_holding (stands : s.StandsIn source) :
    (holding source s).next? = some (s.next.1, holding source s.next.2) := by
  obtain ⟨rest, position, faults⟩ := s
  obtain ⟨front, rfl, rfl⟩ := stands
  have whole : rest.takeWhile isBlank ++ rest.dropWhile isBlank = rest :=
    List.takeWhile_append_dropWhile
  show (behind front rest faults).next? = _
  rw [next?, skipWhile_behind]
  cases left : rest.dropWhile isBlank with
  | nil =>
    rw [left, List.append_nil] at whole
    simp [Scanner.next, left, whole, behind, holding]
  | cons first after =>
    have text := Lexeme.text_read first after
    have input : front ++ rest.takeWhile isBlank ++ (Lexeme.read first after).1.text ++
        (Lexeme.read first after).2 = front ++ rest := by
      rw [List.append_assoc, text, List.append_assoc, ← left, whole]
    have step : Scanner.next ⟨rest, front.length, faults⟩ =
        ((Lexeme.read first after).1.token (front ++ rest.takeWhile isBlank).length,
          ⟨(Lexeme.read first after).2,
            (front ++ rest.takeWhile isBlank ++ (Lexeme.read first after).1.text).length,
            faults ++ (Lexeme.read first after).1.faults (front ++ rest.takeWhile isBlank).length⟩) := by
      simp [Scanner.next, left, Nat.add_assoc]
    refine lexeme?_behind.trans ?_
    rw [step, behind, holding, input]

theorem take?_holding (stands : s.StandsIn source) (count : Nat) :
    (holding source s).take? count = some ((s.take count).1, holding source (s.take count).2) ∧
      (s.take count).2.StandsIn source := by
  induction count generalizing s with
  | zero => exact ⟨rfl, stands⟩
  | succ count ih =>
    obtain ⟨later, standsLater⟩ := ih stands.next
    refine ⟨?_, standsLater⟩
    rw [take?, next?_holding stands]
    exact congrArg (Option.map _) later

theorem drain?_holding (stands : s.StandsIn source) :
    (holding source s).drain? = some (s.drain.1, holding source s.drain.2) := by
  induction s using Scanner.drain.induct with
  | case1 s more ih =>
    rw [drain?_of_next (next?_holding stands), if_pos more, ih stands.next, Scanner.drain_of_more more]
    rfl
  | case2 s noMore =>
    have ends : s.next.1.isEof = true := by simpa using noMore
    rw [drain?_of_next (next?_holding stands), if_neg noMore, Scanner.drain_of_end ends]

theorem answer?_holding (stands : s.StandsIn source) (request : Request) :
    (holding source s).answer? request =
      some ((s.answer request).1, holding source (s.answer request).2) := by
  cases request with
  | tokens count =>
    rw [answer?, (take?_holding stands count).1]
    rfl
  | drain =>
    rw [answer?, drain?_holding stands]
    rfl
  | faults => rfl
  | position => rfl

theorem serve?_holding (stands : s.StandsIn source) (requests : List Request) :
    (holding source s).serve? requests =
      some ((s.serve requests).1, holding source (s.serve requests).2) := by
  induction requests generalizing s with
  | nil => rfl
  | cons request rest ih =>
    obtain ⟨count, taken, -⟩ := s.answer_eq_take request
    have standsLater : (s.answer request).2.StandsIn source := by
      have same : (s.answer request).2 = (s.take count).2 := congrArg Prod.snd taken
      rw [same]
      exact (take?_holding stands count).2
    rw [serve?, answer?_holding stands]
    exact congrArg (Option.map _) (ih standsLater)

end Cursor

namespace Scanner

variable {s : Scanner} {source : Text}

theorem position_lt_next (more : s.next.1.isEof = false) : s.position < s.next.2.position := by
  have shorter := length_next_lt more
  have ends := s.next_end
  omega

theorem position_next_of_end (ends : s.next.1.isEof = true) :
    s.next.2.position = s.position + s.rest.length := by
  rcases s.next_cases with last | ⟨blanks, lexeme, after, form, -, -, found⟩
  · rw [last]
  · rw [found] at ends
    exact absurd (beq_iff_eq.mp ends) form.kind_ne_eof

theorem exists_drain_eq_concat (s : Scanner) :
    ∃ given, s.drain.1 = given ++ [⟨.eof, [], s.position + s.rest.length⟩] ∧
      (∀ t ∈ given, t.isEof = false) ∧ given.length ≤ s.rest.length := by
  induction s using drain.induct with
  | case1 s more ih =>
    obtain ⟨given, drained, goesOn, bound⟩ := ih
    have shorter := length_next_lt more
    refine ⟨s.next.1 :: given, ?_, List.forall_mem_cons.mpr ⟨more, goesOn⟩, ?_⟩
    · rw [drain_of_more more, ← s.next_end]
      exact congrArg (s.next.1 :: ·) drained
    · rw [List.length_cons]
      omega
  | case2 s noMore =>
    have ends : s.next.1.isEof = true := by simpa using noMore
    refine ⟨[], ?_, by simp, Nat.zero_le _⟩
    rw [drain_of_end ends, (next_of_end ends).1, List.nil_append]

end Scanner

theorem cursor_stays_in_source (source : Text) (requests : List Request) :
    let served := (Scanner.ofText source).serve requests
    let s := served.2
    ∃ c, (Cursor.ofText source).serve? requests = some (served.1, c) ∧
      (c.input = source ∧ c.position = s.position ∧ c.faults = s.faults) ∧
      (c.position ≤ source.length ∧ c.current = source[c.position]? ∧
        (c.current = none ↔ c.position = source.length)) ∧
      (∃ after, c.next? = some (s.next.1, after) ∧
        (s.next.1.isEof = false → c.position < after.position) ∧
        (s.next.1.isEof = true → after.position = source.length)) ∧
      ∃ given after, c.drain? = some (s.drain.1, after) ∧
        s.drain.1 = given ++ [⟨.eof, [], source.length⟩] ∧ (∀ t ∈ given, t.isEof = false) ∧
        given.length ≤ source.length - c.position := by
  intro served s
  have stands : s.StandsIn source := Scanner.standsIn_serve source requests
  have start : (Scanner.ofText source).StandsIn source := ⟨[], rfl, rfl⟩
  have ⟨front, whole, position⟩ := stands
  have length : source.length = s.position + s.rest.length := by
    rw [whole, List.length_append, position]
  have current : s.rest.head? = source[s.position]? := by
    rw [whole, position, Cursor.getElem?_behind]
  refine ⟨Cursor.holding source s, Cursor.serve?_holding start requests, ⟨rfl, rfl, rfl⟩, ?_, ?_, ?_⟩
  · refine ⟨?_, current, ?_⟩
    · show s.position ≤ source.length
      omega
    · show s.rest.head? = none ↔ s.position = source.length
      rw [List.head?_eq_none_iff, ← List.length_eq_zero_iff]
      omega
  · refine ⟨_, Cursor.next?_holding stands, Scanner.position_lt_next, fun ends => ?_⟩
    rw [length]
    exact Scanner.position_next_of_end ends
  · obtain ⟨given, drained, goesOn, bound⟩ := s.exists_drain_eq_concat
    refine ⟨given, _, Cursor.drain?_holding stands, ?_, goesOn, ?_⟩
    · rw [drained, length]
    · show given.length ≤ source.length - s.position
      omega

end Sprout

import Sprout.Proofs.FaultReports
import Sprout.Proofs.TokenLines

set_option autoImplicit false

namespace Sprout

namespace Text

def inside (mark : Char) (t : Text) : Text :=
  let opened := (t.dropWhile (· != mark)).tail
  (opened.reverse.dropWhile (· != mark)).tail.reverse

theorem dropWhile_append_mark {mark : Char} {front : Text} (absent : mark ∉ front) (t : Text) :
    (front ++ mark :: t).dropWhile (· != mark) = mark :: t := by
  rw [List.dropWhile_append_of_pos, List.dropWhile_cons_of_neg (by simp)]
  intro c member
  rw [bne_iff_ne]
  rintro rfl
  exact absent member

theorem inside_append {mark : Char} {front back : Text} (first : mark ∉ front) (last : mark ∉ back)
    (t : Text) : inside mark (front ++ mark :: (t ++ mark :: back)) = t := by
  have last : mark ∉ back.reverse := by simpa using last
  rw [inside, dropWhile_append_mark first, List.tail_cons, List.reverse_append, List.reverse_cons,
    List.append_assoc, List.singleton_append]
  simp only [dropWhile_append_mark last, List.tail_cons, List.reverse_reverse]

/-- Which characters show, and which join the one before them. -/
structure Repertoire where
  printable : Char → Bool
  combining : Char → Bool

namespace Repertoire

def escape (r : Repertoire) (c : Char) : Text :=
  match escapeLetter? c with
  | some letter => ['\\', letter]
  | none =>
    if r.combining c then codePointEscape c
    else if r.printable c then [c] else codePointEscape c

def behind (r : Repertoire) : Repertoire := { r with combining := fun _ => false }

def inLiteral (r : Repertoire) (s : Text) : Text := s.flatMap r.escape

def inMessage (r : Repertoire) : Text → Text
  | [] => []
  | c :: rest => escapeQuote r.escape c ++ rest.flatMap (escapeQuote r.behind.escape)

def Joins (r : Repertoire) (c : Char) : Prop :=
  escapeLetter? c = none ∧ r.combining c = true ∧ r.printable c = true

instance (r : Repertoire) (c : Char) : Decidable (r.Joins c) :=
  inferInstanceAs (Decidable (_ ∧ _))

end Repertoire

structure Readable (form : Char → Text → Prop) : Prop where
  solid : ∀ {c t}, form c t → t ≠ []
  unique : ∀ {c d t u x y}, form c t → form d u → t ++ x = u ++ y → c = d ∧ x = y

theorem Readable.flatMap_inj {form : Char → Text → Prop} (readable : Readable form)
    {f : Char → Text} (forms : ∀ c, form c (f c)) {s t : Text} (same : s.flatMap f = t.flatMap f) :
    s = t := by
  induction s generalizing t with
  | nil =>
    cases t with
    | nil => rfl
    | cons d t => simp [readable.solid (forms d)] at same
  | cons c s ih =>
    cases t with
    | nil => simp [readable.solid (forms c)] at same
    | cons d t =>
      rw [List.flatMap_cons, List.flatMap_cons] at same
      obtain ⟨rfl, later⟩ := readable.unique (forms c) (forms d) same
      rw [ih later]

theorem readable_escapes : Readable Escapes where
  solid escapes := by cases escapes <;> simp [codePointEscape]
  unique := Escapes.unique

theorem Escapes.form_unique {c : Char} {t u x y : Text} (first : Escapes c t) (second : Escapes c u)
    (same : t ++ x = u ++ y) : t = u := by
  cases first with
  | plain notQuote notBackslash =>
    cases second with
    | plain => rfl
    | letter => simp [notBackslash] at same
    | codePoint => simp [codePointEscape_append, notBackslash] at same
  | letter known =>
    cases second with
    | plain notQuote notBackslash => exact absurd (List.cons.inj same).1.symm notBackslash
    | letter known' => rw [Option.some.inj (known.symm.trans known')]
    | codePoint =>
      simp only [codePointEscape_append, List.cons_append, List.cons.injEq, true_and] at same
      exact absurd (same.1 ▸ known) (escapeLetter?_ne_codePoint c)
  | codePoint =>
    rw [codePointEscape_append] at same
    cases second with
    | plain notQuote notBackslash => exact absurd (List.cons.inj same).1.symm notBackslash
    | letter known =>
      simp only [List.cons_append, List.cons.injEq, true_and] at same
      exact absurd (same.1 ▸ known) (escapeLetter?_ne_codePoint c)
    | codePoint => rfl

inductive EscapesInMessage : Char → Text → Prop where
  | quote : EscapesInMessage '\'' ['\\', '\'']
  | other {c : Char} {t : Text} (noQuote : c ≠ '\'') (escapes : Escapes c t) : EscapesInMessage c t

theorem escapeLetter?_ne_quote (c : Char) : escapeLetter? c ≠ some '\'' := by
  intro known
  have listed : ∀ p ∈ escapeLetters, p.2 ≠ '\'' := by decide
  exact listed _ (mem_escapeLetters known) rfl

-- No character is written with a single quote behind a backslash but that quote itself.
theorem Escapes.ne_escaped_quote {c : Char} {t x y : Text} (escapes : Escapes c t) :
    t ++ x ≠ '\\' :: '\'' :: y := by
  intro same
  cases escapes with
  | plain notQuote notBackslash => exact absurd (List.cons.inj same).1 notBackslash
  | letter known =>
    simp only [List.cons_append, List.cons.injEq, true_and] at same
    exact escapeLetter?_ne_quote c (same.1 ▸ known)
  | codePoint => simp [codePointEscape_append] at same

theorem readable_escapesInMessage : Readable EscapesInMessage where
  solid form := by
    cases form with
    | quote => simp
    | other _ escapes => exact readable_escapes.solid escapes
  unique first second same := by
    cases first with
    | quote =>
      cases second with
      | quote => simpa using same
      | other _ escapes => exact absurd same.symm escapes.ne_escaped_quote
    | other _ escapes =>
      cases second with
      | quote => exact absurd same escapes.ne_escaped_quote
      | other _ escapes' => exact escapes.unique escapes' same

theorem escapesInMessage_escapeQuote {f : Char → Text} (escapes : ∀ c, Escapes c (f c)) (c : Char) :
    EscapesInMessage c (escapeQuote f c) := by
  unfold escapeQuote
  split
  next quote => exact quote ▸ .quote
  next noQuote => exact .other noQuote (escapes c)

section

variable {f g : Char → Text} (escapes : ∀ c, Escapes c (f c)) (escapes' : ∀ c, Escapes c (g c))

include escapes escapes'

theorem append_escapeQuote_iff {c : Char} {x y : Text} :
    f c ++ x = escapeQuote g c ++ y ↔ (c ≠ '\'' ∧ f c = g c) ∧ x = y := by
  constructor
  · intro same
    have noQuote : c ≠ '\'' := by
      rintro rfl
      exact (escapes _).ne_escaped_quote same
    rw [escapeQuote, if_neg noQuote] at same
    have form := (escapes c).form_unique (escapes' c) same
    exact ⟨⟨noQuote, form⟩, ((escapes c).unique (escapes' c) same).2⟩
  · rintro ⟨⟨noQuote, form⟩, rfl⟩
    rw [escapeQuote, if_neg noQuote, form]

theorem flatMap_escapeQuote_iff {s : Text} :
    s.flatMap f = s.flatMap (escapeQuote g) ↔ ∀ c ∈ s, c ≠ '\'' ∧ f c = g c := by
  induction s with
  | nil => simp
  | cons c s ih =>
    rw [List.flatMap_cons, List.flatMap_cons, append_escapeQuote_iff escapes escapes', ih,
      List.forall_mem_cons]

end

namespace Repertoire

variable (r : Repertoire)

theorem escapes_escape (c : Char) : Escapes c (r.escape c) := by
  unfold escape
  split
  next letter known => exact .letter known
  next unknown =>
    split
    next => exact .codePoint c
    next =>
      split
      next => refine .plain ?_ ?_ <;> rintro rfl <;> simp [escapeLetter?] at unknown
      next => exact .codePoint c

theorem inLiteral_inj {s t : Text} : r.inLiteral s = r.inLiteral t ↔ s = t :=
  ⟨readable_escapes.flatMap_inj r.escapes_escape, congrArg r.inLiteral⟩

theorem inMessage_inj {s t : Text} : r.inMessage s = r.inMessage t ↔ s = t := by
  have here := escapesInMessage_escapeQuote r.escapes_escape
  have later := escapesInMessage_escapeQuote r.behind.escapes_escape
  refine ⟨fun same => ?_, congrArg r.inMessage⟩
  cases s with
  | nil =>
    cases t with
    | nil => rfl
    | cons d t => simp [inMessage, readable_escapesInMessage.solid (here d)] at same
  | cons c s =>
    cases t with
    | nil => simp [inMessage, readable_escapesInMessage.solid (here c)] at same
    | cons d t =>
      obtain ⟨rfl, rest⟩ := readable_escapesInMessage.unique (here c) (here d) same
      rw [readable_escapesInMessage.flatMap_inj later rest]

theorem escape_of_joins {c : Char} (joins : r.Joins c) : r.escape c = codePointEscape c := by
  simp [escape, joins.1, joins.2.1]

theorem behind_escape_of_joins {c : Char} (joins : r.Joins c) : r.behind.escape c = [c] := by
  simp [escape, behind, joins.1, joins.2.2]

theorem behind_escape_of_not_joins {c : Char} (alone : ¬ r.Joins c) :
    r.behind.escape c = r.escape c := by
  unfold escape behind
  split
  next => rfl
  next unknown =>
    cases combining : r.combining c with
    | false => rfl
    | true =>
      have hidden : ¬ r.printable c = true := fun shows => alone ⟨unknown, combining, shows⟩
      simp [hidden]

theorem escape_eq_behind_iff {c : Char} : r.escape c = r.behind.escape c ↔ ¬ r.Joins c := by
  constructor
  · intro same joins
    rw [r.escape_of_joins joins, r.behind_escape_of_joins joins] at same
    simp [codePointEscape] at same
  · intro alone
    rw [r.behind_escape_of_not_joins alone]

theorem inLiteral_eq_inMessage_iff {s : Text} :
    r.inLiteral s = r.inMessage s ↔ '\'' ∉ s ∧ ∀ c ∈ s.tail, ¬ r.Joins c := by
  cases s with
  | nil => simp [inLiteral, inMessage]
  | cons c rest =>
    rw [inLiteral, List.flatMap_cons, inMessage,
      append_escapeQuote_iff r.escapes_escape r.escapes_escape,
      flatMap_escapeQuote_iff r.escapes_escape r.behind.escapes_escape]
    simp only [escape_eq_behind_iff, and_true, List.mem_cons, not_or, List.tail_cons, and_assoc]
    rw [forall₂_and, List.forall_mem_ne', ← ne_eq, ne_comm]

theorem inMessage_eq (s : Text) :
    r.inMessage s = (s.mapIdx fun i c =>
      if c = '\'' then ['\\', '\''] else if 0 < i ∧ r.Joins c then [c] else r.escape c).flatten := by
  cases s with
  | nil => rfl
  | cons c rest =>
    have first : escapeQuote r.escape c =
        if c = '\'' then ['\\', '\''] else if 0 < 0 ∧ r.Joins c then [c] else r.escape c := by
      simp [escapeQuote]
    have later : escapeQuote r.behind.escape = fun c =>
        if c = '\'' then ['\\', '\''] else if r.Joins c then [c] else r.escape c := by
      funext c
      unfold escapeQuote
      split_ifs with quote joins
      · rfl
      · rw [r.behind_escape_of_joins joins]
      · rw [r.behind_escape_of_not_joins joins]
    rw [inMessage, List.mapIdx_cons, List.flatten_cons, first, List.flatMap_def, later]
    congr 2
    refine List.ext_getElem? fun i => ?_
    simp

def unicode : Repertoire := ⟨isPrintable, isCombining⟩

theorem isCombining_of_letter {c letter : Char} (known : escapeLetter? c = some letter) :
    isCombining c = false := by
  have listed : ∀ p ∈ escapeLetters, isCombining p.1 = false := by decide
  exact listed _ (mem_escapeLetters known)

theorem escape_unicode : unicode.escape = escapeAlone := by
  funext c
  rw [escape, escapeAlone, escapeChar]
  cases known : escapeLetter? c with
  | none => rfl
  | some letter => simp [isCombining_of_letter known]

theorem behind_escape_unicode : unicode.behind.escape = escapeChar := by
  funext c
  rw [escape, escapeChar]
  cases escapeLetter? c <;> rfl

theorem joins_unicode_iff {c : Char} :
    unicode.Joins c ↔ isCombining c = true ∧ isPrintable c = true := by
  refine and_iff_right_of_imp ?_
  rintro ⟨combining, -⟩
  refine Option.eq_none_iff_forall_not_mem.mpr fun letter known => ?_
  exact absurd combining (by simp [unicode, isCombining_of_letter known])

theorem inLiteral_unicode : unicode.inLiteral = escapeInLiteral := by
  funext s
  rw [inLiteral, escape_unicode, escapeInLiteral]

theorem inMessage_unicode : unicode.inMessage = escapeInMessage := by
  funext s
  cases s with
  | nil => rfl
  | cons c rest => rw [inMessage, escape_unicode, behind_escape_unicode, escapeInMessage]

end Repertoire

end Text

open Text

namespace Token

def inLine (t : Token) : Text := t.display.inside '"'

def inMessage (t : Token) : Text := (Diagnostic.illegalCharacter t).message.inside '\''

theorem inLine_eq (t : Token) : t.inLine = Repertoire.unicode.inLiteral t.literal := by
  have first : '"' ∉ t.kind.spelling ++ " ".toList := by
    cases t.kind with
    | symbol s => cases s <;> decide
    | keyword k => cases k <;> decide
    | _ => decide
  have last : '"' ∉ " @".toList ++ Nat.toDigits 10 t.position := by
    simp [not_mem_toDigits]
  have whole : t.display = t.kind.spelling ++ " ".toList ++
      '"' :: (t.literal.escapeInLiteral ++ '"' :: (" @".toList ++ Nat.toDigits 10 t.position)) := by
    simp [display, quoted]
  rw [inLine, whole, Repertoire.inLiteral_unicode]
  exact inside_append first last _

theorem inMessage_eq (t : Token) : t.inMessage = Repertoire.unicode.inMessage t.literal := by
  have whole : (Diagnostic.illegalCharacter t).message =
      "Unexpected character: ".toList ++ '\'' :: (t.literal.escapeInMessage ++ ['\'']) := by
    simp [Diagnostic.illegalCharacter]
  rw [inMessage, whole, Repertoire.inMessage_unicode, inside_append (by decide) List.not_mem_nil]

theorem message_inj {t u : Token} :
    (Diagnostic.illegalCharacter t).message = (Diagnostic.illegalCharacter u).message ↔
      t.literal = u.literal := by
  constructor
  · intro same
    have shown : t.inMessage = u.inMessage := congrArg (Text.inside '\'') same
    rwa [inMessage_eq, inMessage_eq, Repertoire.inMessage_inj] at shown
  · intro same
    rw [Diagnostic.illegalCharacter, Diagnostic.illegalCharacter, same]

end Token

theorem scan_illegal (source : Text) :
    (scan source).diagnostics.filter (fun x => x.fault == .illegalCharacter) =
      ((tokenize source).filter fun t => t.kind == .illegal).map Diagnostic.illegalCharacter := by
  have others : (Scanner.ofText source).drain.2.faults.filter (·.fault == .illegalCharacter) = [] := by
    rcases unclosed_eq_nil_or_last source with none | ⟨t, -, -, same, -⟩
    · rw [none, List.filter_nil]
    · rw [same]
      rfl
  rw [scan_diagnostics_eq_collected, List.filter_append, others, List.append_nil, List.filter_eq_self]
  intro x member
  obtain ⟨t, -, rfl⟩ := List.mem_map.mp member
  rfl

theorem exists_char_of_illegal {source : Text} {t : Token} (member : t ∈ tokenize source)
    (illegal : t.kind = .illegal) : ∃ c, t.literal = [c] := by
  obtain ⟨c, -, same⟩ := Option.map_eq_some_iff.mp (char_at_illegal member illegal)
  exact ⟨c, same.symm⟩

theorem escapings_are_lossless :
    (∀ t : Token,
      t.inLine = t.literal.flatMap escapeAlone ∧
      t.inMessage = (t.literal.mapIdx fun i c =>
        if c = '\'' then ['\\', '\'']
        else if 0 < i ∧ isCombining c = true ∧ isPrintable c = true then [c]
        else escapeAlone c).flatten ∧
      (t.inLine = t.inMessage ↔
        '\'' ∉ t.literal ∧ ∀ c ∈ t.literal.tail, ¬ (isCombining c = true ∧ isPrintable c = true))) ∧
    (∀ t u : Token,
      (t.inLine = u.inLine ↔ t.literal = u.literal) ∧
      ((Diagnostic.illegalCharacter t).message = (Diagnostic.illegalCharacter u).message ↔
        t.literal = u.literal)) ∧
    (Repertoire.unicode.inLiteral = escapeInLiteral ∧
      Repertoire.unicode.inMessage = escapeInMessage ∧
      ∀ (r : Repertoire) (s t : Text),
        (r.inLiteral s = r.inLiteral t ↔ s = t) ∧ (r.inMessage s = r.inMessage t ↔ s = t) ∧
        (r.inLiteral s = r.inMessage s ↔ '\'' ∉ s ∧ ∀ c ∈ s.tail, ¬ r.Joins c)) ∧
    ∀ source : Text,
      let strays := (tokenize source).filter fun t => t.kind == .illegal
      (scan source).diagnostics.filter (fun x => x.fault == .illegalCharacter) =
        strays.map Diagnostic.illegalCharacter ∧
      ∀ t ∈ strays, (t.inLine = t.inMessage ↔ t.literal ≠ ['\'']) := by
  have alike (t : Token) : t.inLine = t.inMessage ↔
      '\'' ∉ t.literal ∧ ∀ c ∈ t.literal.tail, ¬ (isCombining c = true ∧ isPrintable c = true) := by
    simp only [t.inLine_eq, t.inMessage_eq, Repertoire.inLiteral_eq_inMessage_iff,
      Repertoire.joins_unicode_iff]
  refine ⟨fun t => ⟨?_, ?_, alike t⟩, fun t u => ⟨?_, Token.message_inj⟩,
    ⟨Repertoire.inLiteral_unicode, Repertoire.inMessage_unicode, fun r s t => ?_⟩, ?_⟩
  · rw [t.inLine_eq, Repertoire.inLiteral, Repertoire.escape_unicode]
  · rw [t.inMessage_eq, Repertoire.inMessage_eq]
    simp only [Repertoire.joins_unicode_iff, Repertoire.escape_unicode]
  · rw [t.inLine_eq, u.inLine_eq, Repertoire.inLiteral_inj]
  · exact ⟨r.inLiteral_inj, r.inMessage_inj, r.inLiteral_eq_inMessage_iff⟩
  · intro source strays
    refine ⟨scan_illegal source, fun t member => ?_⟩
    obtain ⟨found, illegal⟩ := List.mem_filter.mp member
    obtain ⟨c, single⟩ := exists_char_of_illegal found (by simpa using illegal)
    rw [alike, single]
    constructor
    · rintro ⟨noQuote, -⟩ quote
      exact noQuote (quote ▸ List.mem_singleton_self _)
    · intro other
      refine ⟨fun quote => other ?_, fun d behind => absurd behind List.not_mem_nil⟩
      rw [List.mem_singleton.mp quote]

example :
    let both : Token := ⟨.string, ['\'', '\u0301'], 0⟩
    both.inLine = "'\\u\x7b301\x7d".toList ∧ both.inMessage = ['\\', '\'', '\u0301'] := by
  decide

end Sprout

import Sprout.Proofs.TokenStream

set_option autoImplicit false

namespace Sprout

structure Cursor where
  input : Text
  position : Nat
  current : Option Char
  faults : List Diagnostic
deriving DecidableEq, Repr

namespace Cursor

def ofText (source : Text) : Cursor := ⟨source, 0, source.head?, []⟩

def advance (c : Cursor) : Cursor :=
  let position := if c.position < c.input.length then c.position + 1 else c.position
  { c with position, current := c.input[position]? }

def peek (c : Cursor) : Option Char := c.input[c.position + 1]?

def slice? (c : Cursor) (start stop : Nat) : Option Text :=
  if start ≤ stop ∧ stop ≤ c.input.length then some ((c.input.take stop).drop start) else none

-- A bound on the rounds of a loop, also where `current` is not the character at `position`.
def left (c : Cursor) : Nat := if c.current.isSome then c.input.length - c.position + 1 else 0

theorem left_advance_lt {c : Cursor} (more : c.current.isSome = true) : c.advance.left < c.left := by
  have here : c.left = c.input.length - c.position + 1 := if_pos more
  rw [here, left, advance]
  by_cases inside : c.position < c.input.length
  next =>
    simp only [if_pos inside]
    split <;> omega
  next =>
    simp [inside]

theorem current_advance {c : Cursor} (more : c.peek.isSome = true) : c.advance.current = c.peek := by
  obtain ⟨next, found⟩ := Option.isSome_iff_exists.mp more
  obtain ⟨inside, -⟩ := List.getElem?_eq_some_iff.mp found
  have inside : c.position < c.input.length := by omega
  simp [advance, peek, inside]

theorem isSome_of_any {p : Char → Bool} {x : Option Char} (holds : x.any p = true) :
    x.isSome = true := by
  cases x with
  | none => cases holds
  | some d => rfl

def skipWhile (p : Char → Bool) (c : Cursor) : Cursor :=
  if _ : c.current.any p = true then skipWhile p c.advance else c
termination_by c.left
decreasing_by exact left_advance_lt (isSome_of_any ‹_›)

def onEscape (c : Cursor) : Bool :=
  c.current == some '\\' && c.peek.any fun next => decide (next ∈ escapable)

theorem left_escape_lt {c : Cursor} (escape : c.onEscape = true) : c.advance.advance.left < c.left := by
  obtain ⟨backslash, letter⟩ := Bool.and_eq_true_iff.mp escape
  have next := isSome_of_any letter
  have here : c.current.isSome = true := by rw [beq_iff_eq.mp backslash]; rfl
  have there : c.advance.current.isSome = true := by rw [current_advance next]; exact next
  exact lt_trans (left_advance_lt there) (left_advance_lt here)

def skipString (c : Cursor) : Cursor :=
  if _ : c.current.any (· != '"') = true then
    if _ : c.onEscape = true then skipString c.advance.advance else skipString c.advance
  else c
termination_by c.left
decreasing_by
  · exact left_escape_lt ‹_›
  · exact left_advance_lt (isSome_of_any ‹_›)

def either (c : Cursor) (second : Char) (both one : Symbol) : Symbol × Cursor :=
  if c.peek = some second then (both, c.advance) else (one, c)

def symbol? (c : Cursor) : Char → Option (Symbol × Cursor)
  | '=' => some (c.either '=' .eq .assign)
  | '!' => some (c.either '=' .notEq .bang)
  | ';' => some (.semicolon, c)
  | ',' => some (.comma, c)
  | ':' => some (.colon, c)
  | '+' => some (.plus, c)
  | '-' => some (.minus, c)
  | '/' => some (.slash, c)
  | '*' => some (.asterisk, c)
  | '<' => some (.lt, c)
  | '>' => some (.gt, c)
  | '(' => some (.lparen, c)
  | ')' => some (.rparen, c)
  | '\x7b' => some (.lbrace, c)
  | '\x7d' => some (.rbrace, c)
  | '[' => some (.lbracket, c)
  | ']' => some (.rbracket, c)
  | _ => none

def mark? (c : Cursor) (kind : Kind) (start : Nat) : Option (Token × Cursor) :=
  let c := c.advance
  (c.slice? start c.position).map fun text => (⟨kind, text, start⟩, c)

def run? (c : Cursor) (p : Char → Bool) (kind : Text → Kind) (start : Nat) : Option (Token × Cursor) :=
  let c := c.skipWhile p
  (c.slice? start c.position).map fun text => (⟨kind text, text, start⟩, c)

def closeString (c : Cursor) (start : Nat) : Cursor :=
  if c.current.isSome then c.advance
  else { c with faults := c.faults ++ [.unterminatedString ⟨start, c.position⟩] }

def string? (c : Cursor) (start : Nat) : Option (Token × Cursor) :=
  let content := c.advance
  let c := content.skipString
  (c.slice? content.position c.position).map fun raw =>
    (⟨.string, unescape raw, start⟩, c.closeString start)

def lexeme? (c : Cursor) (first : Char) : Option (Token × Cursor) :=
  match c.symbol? first with
  | some (symbol, after) => after.mark? (.symbol symbol) c.position
  | none =>
    if first = '"' then c.string? c.position
    else if isWordStart first then c.run? isWordPart Kind.ofWord c.position
    else if first.isDigit then c.run? Char.isDigit (fun _ => .int) c.position
    else c.mark? .illegal c.position

def next? (c : Cursor) : Option (Token × Cursor) :=
  let c := c.skipWhile isBlank
  match c.current with
  | none => some (⟨.eof, [], c.position⟩, c)
  | some first => c.lexeme? first

section

variable {c after : Cursor} {p : Char → Bool} {t : Token} {symbol : Symbol} {first : Char}

theorem left_skipWhile_le (p : Char → Bool) (c : Cursor) : (c.skipWhile p).left ≤ c.left := by
  induction c using skipWhile.induct p with
  | case1 c more ih =>
    rw [skipWhile, dif_pos more]
    exact le_trans ih (Nat.le_of_lt (left_advance_lt (isSome_of_any more)))
  | case2 c done => rw [skipWhile, dif_neg done]

theorem left_skipWhile_lt (more : c.current.any p = true) : (c.skipWhile p).left < c.left := by
  rw [skipWhile, dif_pos more]
  exact lt_of_le_of_lt (left_skipWhile_le p c.advance) (left_advance_lt (isSome_of_any more))

theorem left_skipString_le (c : Cursor) : c.skipString.left ≤ c.left := by
  induction c using skipString.induct with
  | case1 c more escape ih =>
    rw [skipString, dif_pos more, dif_pos escape]
    exact le_trans ih (Nat.le_of_lt (left_escape_lt escape))
  | case2 c more other ih =>
    rw [skipString, dif_pos more, dif_neg other]
    exact le_trans ih (Nat.le_of_lt (left_advance_lt (isSome_of_any more)))
  | case3 c done => rw [skipString, dif_neg done]

theorem left_closeString_le (c : Cursor) (start : Nat) : (c.closeString start).left ≤ c.left := by
  unfold closeString
  split
  next more => exact Nat.le_of_lt (left_advance_lt more)
  next => rfl

theorem left_symbol?_le (more : c.current.isSome = true)
    (found : c.symbol? first = some (symbol, after)) :
    after.left ≤ c.left ∧ after.current.isSome = true := by
  have either (second : Char) (both one : Symbol) (same : c.either second both one = (symbol, after)) :
      after.left ≤ c.left ∧ after.current.isSome = true := by
    unfold Cursor.either at same
    split at same
    next next =>
      obtain ⟨-, rfl⟩ := Prod.mk.inj same
      have there : c.peek.isSome = true := by rw [next]; rfl
      exact ⟨Nat.le_of_lt (left_advance_lt more), by rw [current_advance there, there]⟩
    next =>
      obtain ⟨-, rfl⟩ := Prod.mk.inj same
      exact ⟨le_rfl, more⟩
  unfold symbol? at found
  split at found
  case h_1 => exact either _ _ _ (Option.some.inj found)
  case h_2 => exact either _ _ _ (Option.some.inj found)
  all_goals
    cases found
    try exact ⟨le_rfl, more⟩

theorem left_lexeme?_lt (here : c.current = some first)
    (found : c.lexeme? first = some (t, after)) : after.left < c.left := by
  have more : c.current.isSome = true := by rw [here]; rfl
  have marked {m : Cursor} {kind : Kind} {start : Nat} (more : m.current.isSome = true)
      (found : m.mark? kind start = some (t, after)) : after.left < m.left := by
    obtain ⟨text, -, same⟩ := Option.map_eq_some_iff.mp found
    obtain ⟨-, rfl⟩ := Prod.mk.inj same
    exact left_advance_lt more
  have ran {p : Char → Bool} {kind : Text → Kind} {start : Nat} (begins : p first = true)
      (found : c.run? p kind start = some (t, after)) : after.left < c.left := by
    obtain ⟨text, -, same⟩ := Option.map_eq_some_iff.mp found
    obtain ⟨-, rfl⟩ := Prod.mk.inj same
    exact left_skipWhile_lt (by rw [here]; exact begins)
  unfold lexeme? at found
  split at found
  next symbol behind known =>
    obtain ⟨bound, goesOn⟩ := left_symbol?_le more known
    exact lt_of_lt_of_le (marked goesOn found) bound
  next =>
    split_ifs at found with quote word digit
    · obtain ⟨raw, -, same⟩ := Option.map_eq_some_iff.mp found
      obtain ⟨-, rfl⟩ := Prod.mk.inj same
      calc
        (c.advance.skipString.closeString c.position).left ≤ c.advance.skipString.left :=
          left_closeString_le _ _
        _ ≤ c.advance.left := left_skipString_le _
        _ < c.left := left_advance_lt more
    · exact ran (isWordPart_of_isWordStart word) found
    · exact ran digit found
    · exact marked more found

theorem left_next?_lt (found : c.next? = some (t, after)) (more : t.isEof = false) :
    after.left < c.left := by
  unfold next? at found
  dsimp only at found
  split at found
  next =>
    obtain ⟨rfl, -⟩ := Prod.mk.inj (Option.some.inj found)
    cases more
  next first here => exact lt_of_lt_of_le (left_lexeme?_lt here found) (left_skipWhile_le isBlank c)

end

def drain? (c : Cursor) : Option (List Token × Cursor) :=
  match _ : c.next? with
  | none => none
  | some (t, after) =>
    if _ : t.isEof = false then (drain? after).map fun rest => rest.map (t :: ·) id
    else some ([t], after)
termination_by c.left
decreasing_by exact left_next?_lt ‹_› ‹_›

theorem drain?_of_next {c after : Cursor} {t : Token} (found : c.next? = some (t, after)) :
    c.drain? = if t.isEof = false then after.drain?.map fun rest => rest.map (t :: ·) id
      else some ([t], after) := by
  rw [drain?]
  split
  next none =>
    rw [none] at found
    cases found
  next t' after' found' =>
    obtain ⟨rfl, rfl⟩ := Prod.mk.inj (Option.some.inj (found'.symm.trans found))
    rw [dite_eq_ite]

def take? : Nat → Cursor → Option (List Token × Cursor)
  | 0, c => some ([], c)
  | n + 1, c =>
    match c.next? with
    | none => none
    | some (t, after) => (take? n after).map fun rest => rest.map (t :: ·) id

def answer? (c : Cursor) : Request → Option (Answer × Cursor)
  | .tokens count => (c.take? count).map fun result => result.map .tokens id
  | .drain => c.drain?.map fun result => result.map .tokens id
  | .faults => some (.faults c.faults, c)
  | .position => some (.position c.position, c)

def serve? : List Request → Cursor → Option (List Token × Cursor)
  | [], c => some ([], c)
  | request :: rest, c =>
    match c.answer? request with
    | none => none
    | some (answer, after) => (serve? rest after).map fun result => result.map (answer.given ++ ·) id

end Cursor

end Sprout

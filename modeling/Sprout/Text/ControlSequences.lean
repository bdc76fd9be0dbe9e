import Sprout.Text.Basic

set_option autoImplicit false

namespace Sprout.Text

def isIntermediate (c : Char) : Bool := ' ' ≤ c && c ≤ '/'

def isParameter (c : Char) : Bool := '0' ≤ c && c ≤ '?'

def isFinal (c : Char) : Bool := '@' ≤ c && c ≤ '~'

def isLayout (c : Char) : Bool := c ∈ ['\t', '\n', '\x0c', '\r']

def isVisible (c : Char) : Bool := isLayout c || (' ' ≤ c && c != '\x7f')

inductive Sequence where
  | ground
  | escape | escapeTail
  | control
  | deviceEntry | deviceParameter | deviceIntermediate
  | string
  | command
deriving DecidableEq, Repr

namespace Sequence

def opened : Char → Sequence
  | '[' => control
  | ']' => command
  | 'P' => deviceEntry
  | 'X' | '^' | '_' => string
  | c =>
    if isIntermediate c then escapeTail
    else if isParameter c || isFinal c then ground
    else escape

def device (s : Sequence) (c : Char) : Sequence :=
  if isIntermediate c then deviceIntermediate
  else if isFinal c || (s != deviceEntry && '<' ≤ c && c ≤ '?') then string
  else if isParameter c then deviceParameter
  else s

-- A string ends at the byte 9C, even inside a character.
def next (s : Sequence) (c : Char) : Sequence :=
  if c = '\x1b' then escape
  else if c = '\x18' || c = '\x1a' then ground
  else
    match s with
    | ground => ground
    | escape => opened c
    | escapeTail => if isParameter c || isFinal c then ground else escapeTail
    | control => if isFinal c then ground else control
    | deviceEntry => device deviceEntry c
    | deviceParameter => device deviceParameter c
    | deviceIntermediate => if isParameter c || isFinal c then string else deviceIntermediate
    | string => if 0x9C ∈ String.utf8EncodeChar c then ground else string
    | command => if c = '\x07' then ground else command

def shows : Sequence → Char → Bool
  | ground, c => isVisible c
  | escape, c => isLayout c
  | escapeTail, c => isLayout c
  | control, c => isLayout c
  | _, _ => false

theorem isVisible_of_shows {s : Sequence} {c : Char} (shown : s.shows c = true) :
    isVisible c = true := by
  cases s <;> simp_all [shows, isVisible]

end Sequence

-- White space inside a sequence suspends it: what follows is shown up to the next control, which
-- takes the sequence up again unless a character that is not ASCII has ended it.
def visibleFrom : Sequence → Bool → Text → Text
  | _, _, [] => []
  | s, suspended, c :: rest =>
    if s.shows c || (suspended && isVisible c) then
      c :: visibleFrom (if c.toNat < 0x80 then s else .ground) true rest
    else visibleFrom (s.next c) false rest

def visible (t : Text) : Text := visibleFrom .ground false t

theorem isVisible_of_mem_visibleFrom {s : Sequence} {suspended : Bool} {t : Text} {c : Char}
    (member : c ∈ visibleFrom s suspended t) : isVisible c = true := by
  induction t generalizing s suspended with
  | nil => simp [visibleFrom] at member
  | cons head rest ih =>
    rw [visibleFrom] at member
    split at member
    next shown =>
      rcases List.mem_cons.mp member with rfl | member
      · rcases (Bool.or_eq_true ..).mp shown with shown | shown
        · exact Sequence.isVisible_of_shows shown
        · exact ((Bool.and_eq_true ..).mp shown).2
      · exact ih member
    next => exact ih member

theorem isVisible_of_mem_visible {t : Text} {c : Char} (member : c ∈ t.visible) :
    isVisible c = true :=
  isVisible_of_mem_visibleFrom member

theorem visibleFrom_eq_self {suspended : Bool} {t : Text}
    (plain : ∀ c ∈ t, isVisible c = true) : visibleFrom .ground suspended t = t := by
  induction t generalizing suspended with
  | nil => rfl
  | cons head rest ih =>
    have shown := plain head (List.mem_cons_self ..)
    have tail := fun (b : Bool) => @ih b fun c member => plain c (List.mem_cons_of_mem _ member)
    simp [visibleFrom, Sequence.shows, shown, tail]

theorem visible_eq_self {t : Text} (plain : ∀ c ∈ t, isVisible c = true) : t.visible = t :=
  visibleFrom_eq_self plain

example : visible "a\x1b[31mb\x1b]0;c\x07d\ne".toList = "abd\ne".toList := by decide

end Sprout.Text

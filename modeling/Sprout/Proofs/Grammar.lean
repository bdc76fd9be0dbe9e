import Sprout.Diagnostic
import Sprout.Text.Basic

set_option autoImplicit false

namespace Sprout

def escapes : List (Char × Char) :=
  [('"', '"'), ('\\', '\\'), ('n', '\n'), ('t', '\t'), ('r', '\r')]

def marks : List Char := "=!;,:+-/*<>(){}[]".toList

def isStray (c : Char) : Bool := !(isBlank c || isWordPart c || c == '"' || marks.contains c)

def IsBlankRun (t : Text) : Prop := ∀ c ∈ t, isBlank c = true

def IsWord : Text → Prop
  | [] => False
  | c :: rest => isWordStart c = true ∧ ∀ d ∈ rest, isWordPart d = true

def IsNumber (t : Text) : Prop := t ≠ [] ∧ ∀ c ∈ t, c.isDigit = true

-- A backslash is a unit by itself only where no character of an escape is next to it, so the units of
-- a text depend on what it goes on with.
inductive Units (after : Text) : Text → Text → Prop where
  | none : Units after [] []
  | plain {c : Char} {raw value : Text} (notQuote : c ≠ '"')
      (single : c = '\\' → ∀ e ∈ escapes, (raw ++ after).head? ≠ some e.1)
      (more : Units after raw value) : Units after (c :: raw) (c :: value)
  | escape {e : Char × Char} {raw value : Text} (known : e ∈ escapes)
      (more : Units after raw value) : Units after ('\\' :: e.1 :: raw) (e.2 :: value)

theorem Units.congr {raw value after after' : Text} (units : Units after raw value)
    (same : after.head? = after'.head?) : Units after' raw value := by
  induction units with
  | none => exact .none
  | plain notQuote single more ih =>
    refine .plain notQuote ?_ ih
    simpa [List.head?_append, same] using single
  | escape known more ih => exact .escape known ih

def Kind.extendedBy : Kind → Char → Bool
  | ident, c => isWordPart c
  | keyword _, c => isWordPart c
  | int, c => c.isDigit
  | symbol .assign, c => c == '='
  | symbol .bang, c => c == '='
  | _, _ => false

inductive Form where
  | keyword (k : Keyword)
  | ident
  | number
  | symbol (s : Symbol)
  | closedString (value : Text)
  | openString (value : Text)
  | stray
deriving DecidableEq, Repr

namespace Form

def kind : Form → Kind
  | keyword k => .keyword k
  | ident => .ident
  | number => .int
  | symbol s => .symbol s
  | closedString _ => .string
  | openString _ => .string
  | stray => .illegal

def literal (lexeme : Text) : Form → Text
  | closedString value => value
  | openString value => value
  | _ => lexeme

def HasShape (lexeme : Text) : Form → Prop
  | keyword k => lexeme = k.word
  | ident => IsWord lexeme ∧ ∀ k : Keyword, lexeme ≠ k.word
  | number => IsNumber lexeme
  | symbol s => lexeme = s.text
  | closedString value => ∃ raw, lexeme = '"' :: raw ++ ['"'] ∧ Units ['"'] raw value
  | openString value => ∃ raw, lexeme = '"' :: raw ∧ Units [] raw value
  | stray => ∃ c, lexeme = [c] ∧ isStray c = true

def extendedBy : Form → Char → Bool
  | openString _, _ => true
  | form, c => form.kind.extendedBy c

/-- The text is a lexeme of this form in a source that goes on with `after`, and no longer one. -/
def Admits (form : Form) (lexeme after : Text) : Prop :=
  form.HasShape lexeme ∧ ∀ c, after.head? = some c → form.extendedBy c = false

theorem Admits.after_eq_nil {value lexeme after : Text}
    (admits : (openString value).Admits lexeme after) : after = [] := by
  cases after with
  | nil => rfl
  | cons c rest => simpa [extendedBy] using admits.2 c rfl

def faults (start : Nat) (lexeme : Text) : Form → List Diagnostic
  | openString _ => [.unterminatedString ⟨start, start + lexeme.length⟩]
  | _ => []

end Form

inductive Decomposition where
  | stop (blanks : Text)
  | item (blanks lexeme : Text) (form : Form) (rest : Decomposition)
deriving DecidableEq, Repr

namespace Decomposition

def text : Decomposition → Text
  | stop blanks => blanks
  | item blanks lexeme _ rest => blanks ++ lexeme ++ rest.text

def Valid : Decomposition → Prop
  | stop blanks => IsBlankRun blanks
  | item blanks lexeme form rest =>
    IsBlankRun blanks ∧ form.Admits lexeme rest.text ∧ rest.Valid

def Cuts (d : Decomposition) (source : Text) : Prop := d.Valid ∧ d.text = source

def lexemeTokens : Nat → Decomposition → List Token
  | _, stop _ => []
  | start, item blanks lexeme form rest =>
    ⟨form.kind, form.literal lexeme, start + blanks.length⟩ ::
      lexemeTokens (start + blanks.length + lexeme.length) rest

def tokens (start : Nat) (d : Decomposition) : List Token :=
  d.lexemeTokens start ++ [⟨.eof, [], start + d.text.length⟩]

theorem tokens_stop (start : Nat) (blanks : Text) :
    (stop blanks).tokens start = [⟨.eof, [], start + blanks.length⟩] := rfl

theorem tokens_item (start : Nat) (blanks lexeme : Text) (form : Form) (rest : Decomposition) :
    (item blanks lexeme form rest).tokens start =
      ⟨form.kind, form.literal lexeme, start + blanks.length⟩ ::
        rest.tokens (start + blanks.length + lexeme.length) := by
  simp [tokens, lexemeTokens, text, Nat.add_assoc]

def faults : Nat → Decomposition → List Diagnostic
  | _, stop _ => []
  | start, item blanks lexeme form rest =>
    form.faults (start + blanks.length) lexeme ++
      faults (start + blanks.length + lexeme.length) rest

end Decomposition

end Sprout

import Mathlib.Data.List.Basic
import Sprout.Proofs.LongestMatch

set_option autoImplicit false

namespace Sprout

def WellFormed (literal : Text) : Kind → Prop
  | .symbol s => literal = (Kind.symbol s).spelling
  | .keyword k => Kind.ofWord literal = .keyword k
  | .ident => IsWord literal ∧ Kind.ofWord literal = .ident
  | .int => IsNumber literal
  | .string => True
  | .illegal => ∃ c, literal = [c] ∧ isStray c = true
  | .eof => False

def protect (c : Char) : Text := if c = '"' ∨ c = '\\' then ['\\', c] else [c]

def written (literal : Text) : Kind → Text
  | .string => '"' :: literal.flatMap protect ++ ['"']
  | _ => literal

structure Entry where
  blanks : Text
  kind : Kind
  literal : Text
deriving DecidableEq, Repr

namespace Entry

def text (x : Entry) : Text := x.blanks ++ written x.literal x.kind

def render (entries : List Entry) (trailing : Text) : Text := entries.flatMap text ++ trailing

def placed (trailing : Text) : Nat → List Entry → List Token
  | start, [] => [⟨.eof, [], start + trailing.length⟩]
  | start, x :: rest =>
    ⟨x.kind, x.literal, start + x.blanks.length⟩ :: placed trailing (start + x.text.length) rest

structure Separated (entries : List Entry) (trailing : Text) : Prop where
  wellFormed : ∀ x ∈ entries, WellFormed x.literal x.kind
  blank : ∀ x ∈ entries, IsBlankRun x.blanks
  apart : ∀ x ∈ entries.tail, x.blanks ≠ []
  trailing : IsBlankRun trailing

end Entry

theorem Kind.ofWord_eq_keyword_iff {w : Text} {k : Keyword} :
    ofWord w = keyword k ↔ w = k.word := by
  rw [← Keyword.ofWord?_eq_some_iff]
  cases found : Keyword.ofWord? w <;> simp [ofWord, found]

theorem Kind.ofWord_eq_ident_iff {w : Text} : ofWord w = ident ↔ ∀ k : Keyword, w ≠ k.word := by
  rw [← Keyword.ofWord?_eq_none_iff]
  cases found : Keyword.ofWord? w <;> simp [ofWord, found]

theorem units_protect (literal : Text) : Units ['"'] (literal.flatMap protect) literal := by
  induction literal with
  | nil => exact .none
  | cons c rest ih =>
    rw [List.flatMap_cons]
    by_cases special : c = '"' ∨ c = '\\'
    next =>
      have known : (c, c) ∈ escapes := by rcases special with rfl | rfl <;> decide
      simpa [protect, special] using Units.escape known ih
    next =>
      obtain ⟨notQuote, notBackslash⟩ := not_or.mp special
      simpa [protect, special] using
        Units.plain notQuote (fun backslash => absurd backslash notBackslash) ih

def Form.ofToken (literal : Text) : Kind → Form
  | .symbol s => .symbol s
  | .keyword k => .keyword k
  | .ident => .ident
  | .int => .number
  | .string => .closedString literal
  | .illegal => .stray
  | .eof => .stray

theorem Kind.extendedBy_blank (kind : Kind) {c : Char} (blank : isBlank c = true) :
    kind.extendedBy c = false := by
  have others : ∀ c ∈ [' ', '\t', '\n', '\r'],
      isWordPart c = false ∧ c.isDigit = false ∧ (c == '=') = false :=
    List.all_iff_forall_prop.mp (by decide)
  obtain ⟨noWord, noDigit, notEquals⟩ := others c (isBlank_iff.mp blank)
  cases kind with
  | symbol s =>
    cases s with
    | assign => exact notEquals
    | bang => exact notEquals
    | _ => rfl
  | keyword k => exact noWord
  | ident => exact noWord
  | int => exact noDigit
  | string => rfl
  | illegal => rfl
  | eof => rfl

theorem Form.ofToken_admits {literal after : Text} {kind : Kind}
    (wellFormed : WellFormed literal kind)
    (apart : ∀ c, after.head? = some c → isBlank c = true) :
    (Form.ofToken literal kind).Admits (written literal kind) after := by
  constructor
  · cases kind with
    | symbol s => exact wellFormed
    | keyword k => exact Kind.ofWord_eq_keyword_iff.mp wellFormed
    | ident => exact ⟨wellFormed.1, Kind.ofWord_eq_ident_iff.mp wellFormed.2⟩
    | int => exact wellFormed
    | string => exact ⟨_, rfl, units_protect literal⟩
    | illegal => exact wellFormed
    | eof => exact absurd wellFormed id
  · intro c next
    have stops := (Form.ofToken literal kind).kind.extendedBy_blank (apart c next)
    cases kind <;> exact stops

theorem Form.kind_ofToken {literal : Text} {kind : Kind} (wellFormed : WellFormed literal kind) :
    (Form.ofToken literal kind).kind = kind := by
  cases kind with
  | eof => exact absurd wellFormed id
  | _ => rfl

theorem Form.literal_ofToken (literal : Text) (kind : Kind) :
    (Form.ofToken literal kind).literal (written literal kind) = literal := by
  cases kind <;> rfl

theorem Form.wellFormed_of_admits {form : Form} {lexeme after : Text}
    (admits : form.Admits lexeme after) : WellFormed (form.literal lexeme) form.kind := by
  have shape := admits.1
  cases form with
  | keyword k => exact Kind.ofWord_eq_keyword_iff.mpr shape
  | ident => exact ⟨shape.1, Kind.ofWord_eq_ident_iff.mpr shape.2⟩
  | number => exact shape
  | symbol s => exact shape
  | closedString value => trivial
  | openString value => trivial
  | stray => exact shape

namespace Entry

def decomposition (trailing : Text) : List Entry → Decomposition
  | [] => .stop trailing
  | x :: rest =>
    .item x.blanks (written x.literal x.kind) (.ofToken x.literal x.kind)
      (decomposition trailing rest)

theorem text_decomposition (trailing : Text) (entries : List Entry) :
    (decomposition trailing entries).text = render entries trailing := by
  induction entries with
  | nil => rfl
  | cons x rest ih => simp [decomposition, Decomposition.text, render, text, ih]

theorem tokens_decomposition {entries : List Entry}
    (wellFormed : ∀ x ∈ entries, WellFormed x.literal x.kind) (trailing : Text) (start : Nat) :
    (decomposition trailing entries).tokens start = placed trailing start entries := by
  induction entries generalizing start with
  | nil => rfl
  | cons x rest ih =>
    have here := wellFormed x (List.mem_cons_self ..)
    have later := ih fun y member => wellFormed y (List.mem_cons_of_mem x member)
    rw [decomposition, Decomposition.tokens_item, placed, later, Form.kind_ofToken here,
      Form.literal_ofToken, text, List.length_append, Nat.add_assoc]

theorem Separated.tail {x : Entry} {rest : List Entry} {trailing : Text}
    (separated : Separated (x :: rest) trailing) : Separated rest trailing where
  wellFormed y member := separated.wellFormed y (List.mem_cons_of_mem x member)
  blank y member := separated.blank y (List.mem_cons_of_mem x member)
  apart y member := separated.apart y (List.mem_of_mem_tail member)
  trailing := separated.trailing

theorem Separated.blank_of_next {x : Entry} {rest : List Entry} {trailing : Text}
    (separated : Separated (x :: rest) trailing) {c : Char}
    (next : (render rest trailing).head? = some c) : isBlank c = true := by
  cases rest with
  | nil => exact separated.trailing c (List.mem_of_mem_head? next)
  | cons y rest =>
    have nonempty := separated.apart y (List.mem_cons_self ..)
    have blank := separated.tail.blank y (List.mem_cons_self ..)
    rw [render, List.flatMap_cons, text, List.append_assoc, List.append_assoc,
      List.head?_append_of_ne_nil _ nonempty] at next
    exact blank c (List.mem_of_mem_head? next)

theorem valid_decomposition {entries : List Entry} {trailing : Text}
    (separated : Separated entries trailing) : (decomposition trailing entries).Valid := by
  induction entries with
  | nil => exact separated.trailing
  | cons x rest ih =>
    have here := separated.wellFormed x (List.mem_cons_self ..)
    refine ⟨separated.blank x (List.mem_cons_self ..), ?_, ih separated.tail⟩
    apply Form.ofToken_admits here
    intro c next
    rw [text_decomposition] at next
    exact separated.blank_of_next next

theorem separated_spaced {pairs : List (Kind × Text)}
    (wellFormed : ∀ p ∈ pairs, WellFormed p.2 p.1) :
    Separated (pairs.map fun p => ⟨[' '], p.1, p.2⟩) [] where
  wellFormed x member := by
    obtain ⟨p, found, rfl⟩ := List.mem_map.mp member
    exact wellFormed p found
  blank x member := by
    obtain ⟨p, -, rfl⟩ := List.mem_map.mp member
    simp [IsBlankRun, isBlank]
  apart x member := by
    obtain ⟨p, -, rfl⟩ := List.mem_map.mp (List.mem_of_mem_tail member)
    simp
  trailing := by simp [IsBlankRun]

theorem map_placed (trailing : Text) (start : Nat) (entries : List Entry) :
    (placed trailing start entries).map (fun t => (t.kind, t.literal)) =
      entries.map (fun x => (x.kind, x.literal)) ++ [(.eof, [])] := by
  induction entries generalizing start with
  | nil => rfl
  | cons x rest ih => rw [placed, List.map_cons, ih, List.map_cons, List.cons_append]

end Entry

theorem Decomposition.wellFormed_of_mem {d : Decomposition} (valid : d.Valid) {start : Nat}
    {t : Token} (member : t ∈ d.lexemeTokens start) : WellFormed t.literal t.kind := by
  induction d generalizing start with
  | stop blanks => simp [lexemeTokens] at member
  | item blanks lexeme form rest ih =>
    obtain ⟨-, admits, valid⟩ := valid
    rw [lexemeTokens, List.mem_cons] at member
    rcases member with rfl | member
    · exact Form.wellFormed_of_admits admits
    · exact ih valid member

theorem tokenize_inverts_render :
    (∀ (entries : List Entry) (trailing : Text), Entry.Separated entries trailing →
      tokenize (Entry.render entries trailing) = Entry.placed trailing 0 entries) ∧
    ∀ found : List (Kind × Text),
      (∃ source, (tokenize source).map (fun t => (t.kind, t.literal)) = found) ↔
        ∃ pairs : List (Kind × Text),
          (∀ p ∈ pairs, WellFormed p.2 p.1) ∧ found = pairs ++ [(.eof, [])] := by
  have inverts (entries : List Entry) (trailing : Text)
      (separated : Entry.Separated entries trailing) :
      tokenize (Entry.render entries trailing) = Entry.placed trailing 0 entries := by
    have cuts : (Entry.decomposition trailing entries).Cuts (Entry.render entries trailing) :=
      ⟨Entry.valid_decomposition separated, Entry.text_decomposition trailing entries⟩
    rw [tokenize_eq_tokens cuts, Entry.tokens_decomposition separated.wellFormed]
  refine ⟨inverts, ?_⟩
  intro found
  constructor
  · rintro ⟨source, rfl⟩
    obtain ⟨d, cuts⟩ := Decomposition.exists_cuts source
    refine ⟨(d.lexemeTokens 0).map fun t => (t.kind, t.literal), ?_, ?_⟩
    · intro p member
      obtain ⟨t, inside, rfl⟩ := List.mem_map.mp member
      exact d.wellFormed_of_mem cuts.1 inside
    · rw [tokenize_eq_tokens cuts, Decomposition.tokens, List.map_append]
      rfl
  · rintro ⟨pairs, wellFormed, rfl⟩
    refine ⟨Entry.render (pairs.map fun p => ⟨[' '], p.1, p.2⟩) [], ?_⟩
    rw [inverts _ _ (Entry.separated_spaced wellFormed), Entry.map_placed]
    simp [Function.comp_def]

theorem tokenize_inverts_render_escaped :
    let entries : List Entry :=
      [⟨[], .string, ['\\', 'n', '"']⟩, ⟨['\n'], .symbol .assign, ['=']⟩, ⟨[' '], .illegal, ['@']⟩]
    Entry.Separated entries ['\t'] ∧
      tokenize "\"\\\\n\\\"\"\n= @\t".toList =
        [⟨.string, ['\\', 'n', '"'], 0⟩, ⟨.symbol .assign, ['='], 8⟩, ⟨.illegal, ['@'], 10⟩,
          ⟨.eof, [], 12⟩] := by
  intro entries
  have separated : Entry.Separated entries ['\t'] := by
    constructor
    · intro x member
      rcases List.mem_cons.mp member with rfl | member
      · trivial
      · rcases List.mem_cons.mp member with rfl | member
        · rfl
        · obtain rfl := List.mem_singleton.mp member
          exact ⟨'@', rfl, by decide⟩
    · simp [entries, IsBlankRun, isBlank]
    · simp [entries]
    · simp [IsBlankRun, isBlank]
  exact ⟨separated, tokenize_inverts_render.1 entries ['\t'] separated⟩

end Sprout

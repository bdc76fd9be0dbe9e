import Mathlib.Data.List.Basic
import Sprout.Text.Lines

set_option autoImplicit false

namespace Sprout.Text

/-- Each line holds the terminator that ends it, a carriage return with a line feed behind it being
one. -/
inductive Lined : Text → List Text → Prop where
  | nil : Lined [] []
  | last {body : Text} (solid : body ≠ []) (plain : ∀ c ∈ body, isTerminator c = false) :
      Lined body [body]
  | pair {body rest : Text} {lines : List Text} (plain : ∀ c ∈ body, isTerminator c = false)
      (more : Lined rest lines) :
      Lined (body ++ '\r' :: '\n' :: rest) ((body ++ ['\r', '\n']) :: lines)
  | single {body rest : Text} {c : Char} {lines : List Text}
      (plain : ∀ c ∈ body, isTerminator c = false) (ends : isTerminator c = true)
      (alone : c = '\r' → rest.head? ≠ some '\n') (more : Lined rest lines) :
      Lined (body ++ c :: rest) ((body ++ [c]) :: lines)

theorem Lined.extendFirst {c : Char} {t : Text} {cut : List Text} (lined : Lined t cut)
    (ordinary : isTerminator c = false) : Lined (c :: t) (Text.extendFirst c cut) := by
  have longer {body : Text} (plain : ∀ d ∈ body, isTerminator d = false) :
      ∀ d ∈ c :: body, isTerminator d = false := by
    intro d member
    rcases List.mem_cons.mp member with rfl | member
    · exact ordinary
    · exact plain d member
  cases lined with
  | nil => exact .last (by simp) (longer (by simp))
  | last solid plain => exact .last (by simp) (longer plain)
  | pair plain more => exact .pair (longer plain) more
  | single plain ends alone more => exact .single (longer plain) ends alone more

theorem lined_lines (t : Text) : Lined t t.lines := by
  induction t using lines.induct with
  | case1 => exact .nil
  | case2 rest ih => exact @Lined.pair [] _ _ (by simp) ih
  | case3 c rest noPair ends ih =>
    rw [lines, if_pos ends]
    · refine @Lined.single [] _ _ _ (by simp) ends ?_ ih
      intro carriageReturn next
      obtain ⟨after, rfl⟩ := List.head?_eq_some_iff.mp next
      exact noPair after carriageReturn rfl
    · exact noPair
  | case4 c rest noPair ordinary ih =>
    rw [lines, if_neg ordinary]
    · exact ih.extendFirst (by simpa using ordinary)
    · exact noPair

theorem lines_plain_append {body rest line : Text} {more : List Text}
    (plain : ∀ c ∈ body, isTerminator c = false) (cut : lines rest = line :: more) :
    lines (body ++ rest) = (body ++ line) :: more := by
  induction body with
  | nil => exact cut
  | cons c body ih =>
    have ordinary : isTerminator c = false := plain c (List.mem_cons_self ..)
    have later := ih fun d member => plain d (List.mem_cons_of_mem c member)
    rw [List.cons_append, lines, later]
    · simp [ordinary, Text.extendFirst]
    · rintro after rfl
      simp [isTerminator] at ordinary

theorem lines_of_plain {body : Text} (solid : body ≠ [])
    (plain : ∀ c ∈ body, isTerminator c = false) : lines body = [body] := by
  obtain ⟨front, c, rfl⟩ := (List.eq_nil_or_concat' body).resolve_left solid
  have ordinary : isTerminator c = false := plain c (by simp)
  have last : lines [c] = [[c]] := by
    rw [lines]
    · simp [ordinary, lines, Text.extendFirst]
    · simp
  rw [lines_plain_append (fun d member => plain d (by simp [member])) last]

theorem Lined.eq_lines {t : Text} {cut : List Text} (lined : Lined t cut) : cut = t.lines := by
  induction lined with
  | nil => rfl
  | last solid plain => exact (lines_of_plain solid plain).symm
  | pair plain more ih => rw [ih, lines_plain_append plain (by rw [lines])]
  | @single body rest c lines plain ends alone more ih =>
    have first : Text.lines (c :: rest) = [c] :: rest.lines := by
      rw [Text.lines, if_pos ends]
      rintro after rfl rfl
      exact alone rfl rfl
    rw [ih, lines_plain_append plain first]

theorem lined_iff {t : Text} {cut : List Text} : Lined t cut ↔ cut = t.lines := by
  constructor
  · exact Lined.eq_lines
  · rintro rfl
    exact lined_lines t

instance : Inhabited Place := ⟨⟨1, 1⟩⟩

def charAt? (lines : List Text) : Place → Option Char
  | ⟨line + 1, column + 1⟩ => lines[line]?.bind fun t => t[column]?
  | _ => none

def Place.Before (p q : Place) : Prop :=
  p.line < q.line ∨ p.line = q.line ∧ p.column < q.column

theorem locate?_first {line : Text} {offset : Nat} (inside : offset < line.length)
    (rest : List Text) : locate? (line :: rest) offset = some ⟨1, offset + 1⟩ := by
  cases rest with
  | nil => simp [locate?, Nat.le_of_lt inside]
  | cons next rest => simp [locate?, inside]

theorem locate?_later {line : Text} {offset : Nat} {rest : List Text}
    (behind : line.length ≤ offset) (more : rest ≠ []) :
    locate? (line :: rest) offset =
      (locate? rest (offset - line.length)).map fun p => ⟨p.line + 1, p.column⟩ := by
  cases rest with
  | nil => exact absurd rfl more
  | cons next rest => simp [locate?, Nat.not_lt.mpr behind]

/-- What a place says about the offset that it is shown for. -/
structure Counts (lines : List Text) (offset : Nat) (p : Place) : Prop where
  one_le_line : 1 ≤ p.line
  line_le : p.line ≤ lines.length
  one_le_column : 1 ≤ p.column
  offset_eq : (lines.take (p.line - 1)).flatten.length + (p.column - 1) = offset
  inside : offset < lines.flatten.length →
    ∃ line, lines[p.line - 1]? = some line ∧ p.column ≤ line.length
  atEnd : offset = lines.flatten.length → p.line = lines.length

theorem Counts.unique {lines : List Text} {a b : Nat} {p : Place} (first : Counts lines a p)
    (second : Counts lines b p) : a = b :=
  first.offset_eq.symm.trans second.offset_eq

theorem Counts.first {line : Text} {offset : Nat} {rest : List Text}
    (within : offset < line.length ∨ rest = [] ∧ offset ≤ line.length) :
    Counts (line :: rest) offset ⟨1, offset + 1⟩ where
  one_le_line := Nat.le_refl _
  line_le := Nat.le_add_left ..
  one_le_column := Nat.le_add_left ..
  offset_eq := by simp
  inside less := by
    refine ⟨line, rfl, ?_⟩
    rcases within with within | ⟨rfl, -⟩
    · exact within
    · simpa [Nat.succ_le_iff] using less
  atEnd last := by
    rcases within with within | ⟨rfl, -⟩
    · rw [List.flatten_cons, List.length_append] at last
      omega
    · rfl

theorem Counts.later {line : Text} {offset : Nat} {rest : List Text} {p : Place}
    (behind : line.length ≤ offset) (counts : Counts rest (offset - line.length) p) :
    Counts (line :: rest) offset ⟨p.line + 1, p.column⟩ := by
  obtain ⟨above, column⟩ := p
  obtain ⟨above, rfl⟩ := Nat.exists_eq_add_of_le' counts.one_le_line
  have offset_eq := counts.offset_eq
  simp only [Nat.add_sub_cancel] at offset_eq
  constructor
  · exact Nat.le_add_left ..
  · exact Nat.succ_le_succ counts.line_le
  · exact counts.one_le_column
  · simp only [Nat.add_sub_cancel, List.take_succ_cons, List.flatten_cons, List.length_append]
    omega
  · intro less
    rw [List.flatten_cons, List.length_append] at less
    exact counts.inside (by omega)
  · intro last
    rw [List.flatten_cons, List.length_append] at last
    exact congrArg Nat.succ (counts.atEnd (by omega))

theorem counts_of_locate? {lines : List Text} {offset : Nat} {p : Place}
    (found : locate? lines offset = some p) : Counts lines offset p := by
  fun_induction locate? lines offset generalizing p with
  | case1 => simp at found
  | case2 line offset inside =>
    obtain rfl := Option.some.inj found
    exact .first (.inr ⟨rfl, inside⟩)
  | case3 => simp at found
  | case4 line rest offset _ inside =>
    obtain rfl := Option.some.inj found
    exact .first (.inl inside)
  | case5 line rest offset _ behind ih =>
    obtain ⟨q, later, rfl⟩ := Option.map_eq_some_iff.mp found
    exact .later (Nat.le_of_not_lt behind) (ih later)

theorem exists_locate? {lines : List Text} {offset : Nat} (inside : offset < lines.flatten.length) :
    ∃ p, locate? lines offset = some p ∧ charAt? lines p = lines.flatten[offset]? := by
  induction lines generalizing offset with
  | nil => simp at inside
  | cons line rest ih =>
    by_cases first : offset < line.length
    next =>
      refine ⟨_, locate?_first first rest, ?_⟩
      simp [charAt?, List.getElem?_append_left first]
    next =>
      have behind : line.length ≤ offset := Nat.le_of_not_lt first
      rw [List.flatten_cons, List.length_append] at inside
      have more : rest ≠ [] := by
        rintro rfl
        exact first (by simpa using inside)
      obtain ⟨p, found, char⟩ := @ih (offset - line.length) (by omega)
      refine ⟨_, by rw [locate?_later behind more, found, Option.map_some], ?_⟩
      rw [List.flatten_cons, List.getElem?_append_right behind, ← char]
      obtain ⟨above, column⟩ := p
      obtain ⟨above, rfl⟩ := Nat.exists_eq_add_of_le' (counts_of_locate? found).one_le_line
      cases column <;> rfl

theorem before_of_lt {lines : List Text} {a b : Nat} {p q : Place} (less : a < b)
    (first : locate? lines a = some p) (second : locate? lines b = some q) : p.Before q := by
  fun_induction locate? lines a generalizing b p q with
  | case1 => simp at first
  | case2 line a inside =>
    rw [locate?] at second
    obtain ⟨-, same⟩ := Option.ite_none_right_eq_some.mp second
    obtain rfl := Option.some.inj same
    obtain rfl := Option.some.inj first
    exact .inr ⟨rfl, by simpa using less⟩
  | case3 => simp at first
  | case4 line rest a more inside =>
    obtain rfl := Option.some.inj first
    by_cases same : b < line.length
    next =>
      rw [locate?_first same] at second
      obtain rfl := Option.some.inj second
      exact .inr ⟨rfl, by simpa using less⟩
    next =>
      rw [locate?_later (Nat.le_of_not_lt same) more] at second
      obtain ⟨q, found, rfl⟩ := Option.map_eq_some_iff.mp second
      exact .inl (Nat.succ_le_succ (counts_of_locate? found).one_le_line)
  | case5 line rest a more behind ih =>
    obtain ⟨p, found, rfl⟩ := Option.map_eq_some_iff.mp first
    rw [locate?_later (by omega) more] at second
    obtain ⟨q, found', rfl⟩ := Option.map_eq_some_iff.mp second
    rcases ih (by omega) found found' with lines | ⟨line, column⟩
    · exact .inl (Nat.succ_lt_succ lines)
    · exact .inr ⟨congrArg Nat.succ line, column⟩

end Sprout.Text

import Mathlib.Data.List.Basic
import Sprout.Proofs.Reading
import Sprout.Text.Escaped

set_option autoImplicit false

namespace Sprout

theorem cut_unique {α : Type} {stop : α} {a b x y : List α} (first : stop ∉ a) (second : stop ∉ b)
    (same : a ++ stop :: x = b ++ stop :: y) : a = b ∧ x = y := by
  rcases List.append_eq_append_iff.mp same with ⟨left, rfl, more⟩ | ⟨left, rfl, more⟩
  next =>
    cases left with
    | nil => simpa using more
    | cons c left =>
      obtain rfl : stop = c := (List.cons.inj more).1
      exact absurd (by simp) second
  next =>
    cases left with
    | nil => simpa [eq_comm] using more
    | cons c left =>
      obtain rfl : stop = c := (List.cons.inj more).1
      exact absurd (by simp) first

theorem splitOn_of_not_mem {α : Type} [DecidableEq α] {stop : α} {a : List α} (absent : stop ∉ a) :
    a.splitOn stop = [a] := by
  refine List.splitOnP_eq_singleton fun c member => ?_
  rw [beq_eq_false_iff_ne]
  rintro rfl
  exact absent member

theorem digitChar_inj {m n : Nat} (below : m < 16) (below' : n < 16)
    (same : m.digitChar = n.digitChar) : m = n := by
  have listed : ∀ m < 16, ∀ n < 16, m.digitChar = n.digitChar → m = n := by decide
  exact listed m below n below' same

theorem toDigits_inj {base m n : Nat} (low : 1 < base) (high : base ≤ 16)
    (same : Nat.toDigits base m = Nat.toDigits base n) : m = n := by
  induction m using Nat.base_induction base low generalizing n with
  | single m small =>
    rw [Nat.toDigits_of_lt_base small, Nat.toDigits_eq_if (n := n) low] at same
    split at same
    next small' => exact digitChar_inj (by omega) (by omega) (List.singleton_inj.mp same)
    next => simp [List.singleton_eq_append_iff] at same
  | digit m digit small positive ih =>
    rw [← Nat.toDigits_append_toDigits low positive small, Nat.toDigits_of_lt_base small,
      Nat.toDigits_eq_if (n := n) low] at same
    split at same
    next => simp [List.append_eq_singleton_iff] at same
    next =>
      obtain ⟨sameFront, sameLast⟩ := List.append_inj' same rfl
      have remainder : n % base < base := Nat.mod_lt n (by omega)
      have last := digitChar_inj (by omega) (by omega) (List.singleton_inj.mp sameLast)
      rw [ih sameFront, last, Nat.div_add_mod]

theorem exists_digitChar {base n : Nat} (low : 1 < base) {c : Char}
    (member : c ∈ Nat.toDigits base n) : ∃ d < base, c = d.digitChar := by
  induction n using Nat.base_induction base low with
  | single n small =>
    rw [Nat.toDigits_of_lt_base small, List.mem_singleton] at member
    exact ⟨n, small, member⟩
  | digit n digit small positive ih =>
    rw [← Nat.toDigits_append_toDigits low positive small, Nat.toDigits_of_lt_base small,
      List.mem_append, List.mem_singleton] at member
    rcases member with member | member
    · exact ih member
    · exact ⟨digit, small, member⟩

theorem not_mem_toDigits {c : Char} (noDigit : c.isDigit = false) (n : Nat) :
    c ∉ Nat.toDigits 10 n := by
  intro member
  have digit := Nat.isDigit_of_mem_toDigits (by omega) (by omega) member
  simp [digit] at noDigit

namespace Text

inductive Escapes : Char → Text → Prop where
  | plain {c : Char} (notQuote : c ≠ '"') (notBackslash : c ≠ '\\') : Escapes c [c]
  | letter {c letter : Char} (known : escapeLetter? c = some letter) : Escapes c ['\\', letter]
  | codePoint (c : Char) : Escapes c (codePointEscape c)

theorem escapes_escapeAlone (c : Char) : Escapes c (escapeAlone c) := by
  unfold escapeAlone escapeChar
  split
  next => exact .codePoint c
  next =>
    split
    next letter known => exact .letter known
    next unknown =>
      split
      next =>
        refine .plain ?_ ?_ <;> rintro rfl <;> simp [escapeLetter?] at unknown
      next => exact .codePoint c

def escapeLetters : List (Char × Char) :=
  [('\x00', '0'), ('\t', 't'), ('\n', 'n'), ('\r', 'r'), ('\\', '\\'), ('"', '"')]

theorem mem_escapeLetters {c letter : Char} (known : escapeLetter? c = some letter) :
    (c, letter) ∈ escapeLetters := by
  unfold escapeLetter? at known
  split at known <;> cases known <;> decide

theorem escapeLetter?_inj {c d letter : Char} (known : escapeLetter? c = some letter)
    (known' : escapeLetter? d = some letter) : c = d := by
  have listed : ∀ p ∈ escapeLetters, ∀ q ∈ escapeLetters, p.2 = q.2 → p.1 = q.1 := by decide
  exact listed _ (mem_escapeLetters known) _ (mem_escapeLetters known') rfl

theorem escapeLetter?_ne_codePoint (c : Char) : escapeLetter? c ≠ some 'u' := by
  intro known
  have listed : ∀ p ∈ escapeLetters, p.2 ≠ 'u' := by decide
  exact listed _ (mem_escapeLetters known) rfl

theorem codePointEscape_append (c : Char) (x : Text) :
    codePointEscape c ++ x = '\\' :: 'u' :: '\x7b' :: (Nat.toDigits 16 c.toNat ++ '\x7d' :: x) := by
  simp [codePointEscape]

theorem codePointEscape_inj {c d : Char} {x y : Text}
    (same : codePointEscape c ++ x = codePointEscape d ++ y) : c = d ∧ x = y := by
  have noBrace (n : Nat) : '\x7d' ∉ Nat.toDigits 16 n := by
    intro member
    obtain ⟨digit, small, same⟩ := exists_digitChar (by omega) member
    have listed : ∀ digit < 16, '\x7d' ≠ digit.digitChar := by decide
    exact listed digit small same
  simp only [codePointEscape_append, List.cons.injEq, true_and] at same
  obtain ⟨sameDigits, sameRest⟩ := cut_unique (noBrace _) (noBrace _) same
  exact ⟨Char.toNat_inj.mp (toDigits_inj (by omega) (by omega) sameDigits), sameRest⟩

namespace Escapes

theorem unique {c d : Char} {t u x y : Text} (first : Escapes c t) (second : Escapes d u)
    (same : t ++ x = u ++ y) : c = d ∧ x = y := by
  cases first with
  | plain notQuote notBackslash =>
    cases second with
    | plain => simpa using same
    | letter => simp [notBackslash] at same
    | codePoint => simp [codePointEscape_append, notBackslash] at same
  | letter known =>
    cases second with
    | plain notQuote notBackslash => exact absurd (List.cons.inj same).1.symm notBackslash
    | letter known' =>
      simp only [List.cons_append, List.nil_append, List.cons.injEq, true_and] at same
      exact ⟨escapeLetter?_inj known (same.1 ▸ known'), same.2⟩
    | codePoint =>
      simp only [codePointEscape_append, List.cons_append, List.cons.injEq, true_and] at same
      exact absurd (same.1 ▸ known) (escapeLetter?_ne_codePoint c)
  | codePoint =>
    rw [codePointEscape_append] at same
    cases second with
    | plain notQuote notBackslash => exact absurd (List.cons.inj same).1.symm notBackslash
    | letter known =>
      simp only [List.cons_append, List.cons.injEq, true_and] at same
      exact absurd (same.1 ▸ known) (escapeLetter?_ne_codePoint d)
    | codePoint => exact codePointEscape_inj (by rw [codePointEscape_append, same])

theorem ne_quote_append {c : Char} {t x y : Text} (escapes : Escapes c t) :
    t ++ x ≠ '"' :: y := by
  cases escapes with
  | plain notQuote => simp [notQuote]
  | letter => simp
  | codePoint => simp [codePointEscape_append]

end Escapes

theorem escaped_unique {f g : Char → Text} (escapes : ∀ c, Escapes c (f c))
    (escapes' : ∀ c, Escapes c (g c)) {s t x y : Text}
    (same : s.flatMap f ++ '"' :: x = t.flatMap g ++ '"' :: y) : s = t ∧ x = y := by
  induction s generalizing t with
  | nil =>
    cases t with
    | nil => simpa using same
    | cons d rest =>
      rw [List.flatMap_cons, List.append_assoc] at same
      exact absurd same.symm (escapes' d).ne_quote_append
  | cons c rest ih =>
    rw [List.flatMap_cons, List.append_assoc] at same
    cases t with
    | nil => exact absurd same (escapes c).ne_quote_append
    | cons d rest' =>
      rw [List.flatMap_cons, List.append_assoc] at same
      obtain ⟨rfl, later⟩ := (escapes c).unique (escapes' d) same
      obtain ⟨rfl, sameRest⟩ := ih later
      exact ⟨rfl, sameRest⟩

end Text

end Sprout

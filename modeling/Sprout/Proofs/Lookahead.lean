import Mathlib.Data.List.Basic
import Sprout.Proofs.TokenStream

set_option autoImplicit false

namespace Sprout

theorem Form.Admits.of_head?_eq {form : Form} {lexeme after after' : Text}
    (admits : form.Admits lexeme after) (same : after'.head? = after.head?) :
    form.Admits lexeme after' := by
  refine ⟨admits.1, ?_⟩
  rw [same]
  exact admits.2

namespace Scanner

variable {front behind : Text} {position : Nat} {faults : List Diagnostic}

theorem next_append
    (inside : (next ⟨front ++ behind, position, faults⟩).2.position < position + front.length) :
    ∃ (t : Token) (left : Text) (stop : Nat), stop + left.length = position + front.length ∧
      ∀ other, next ⟨front ++ other, position, faults⟩ = (t, ⟨left ++ other, stop, faults⟩) := by
  obtain ⟨d, valid, same⟩ := Decomposition.exists_cuts (front ++ behind)
  have lengths := congrArg List.length same
  rw [List.length_append] at lengths
  cases d with
  | stop blanks =>
    -- Only blanks are left, so the step goes to the end.
    rw [← same, Decomposition.text, next_of_blank valid] at inside
    simp only [Decomposition.text] at lengths inside
    omega
  | item blanks lexeme form rest =>
    obtain ⟨blank, admits, -⟩ := valid
    simp only [Decomposition.text] at same
    rw [← same, next_of_admits blank admits] at inside
    have short : (blanks ++ lexeme).length < front.length := by
      simp only [List.length_append] at inside ⊢
      omega
    obtain ⟨left, whole, more⟩ : ∃ left, front = blanks ++ lexeme ++ left ∧
        rest.text = left ++ behind := by
      rcases List.append_eq_append_iff.mp same with found | ⟨beyond, longer, -⟩
      · exact found
      · simp only [longer, List.length_append] at short
        omega
    have nonempty : left ≠ [] := by
      rintro rfl
      simp [whole] at short
    have closed : ∀ value, form ≠ .openString value := by
      rintro value rfl
      have last := admits.after_eq_nil
      simp [more, nonempty] at last
    refine ⟨⟨form.kind, form.literal lexeme, position + blanks.length⟩, left,
      position + blanks.length + lexeme.length, ?_, ?_⟩
    · simp only [whole, List.length_append]
      omega
    · intro other
      have sameHead : (left ++ other).head? = rest.text.head? := by
        rw [more, List.head?_append_of_ne_nil _ nonempty, List.head?_append_of_ne_nil _ nonempty]
      have step := next_of_admits blank (admits.of_head?_eq sameHead) position faults
      rw [Form.faults_eq_nil closed, List.append_nil] at step
      rw [whole, List.append_assoc, step]

theorem take_append (count : Nat)
    (inside : (take count ⟨front ++ behind, position, faults⟩).2.position <
      position + front.length) :
    ∃ (given : List Token) (left : Text) (stop : Nat),
      ∀ other, take count ⟨front ++ other, position, faults⟩ =
        (given, ⟨left ++ other, stop, faults⟩) := by
  induction count generalizing front position with
  | zero => exact ⟨[], front, position, fun _ => rfl⟩
  | succ count ih =>
    have first : (next ⟨front ++ behind, position, faults⟩).2.position <
        position + front.length := lt_of_le_of_lt (position_le_take count _) inside
    obtain ⟨t, left, stop, total, step⟩ := next_append first
    rw [take_succ, step, ← total] at inside
    obtain ⟨given, left', stop', steps⟩ := ih inside
    refine ⟨t :: given, left', stop', ?_⟩
    intro other
    rw [take_succ, step, steps]
    rfl

end Scanner

theorem tokens_ignore_what_follows (text behind other : Text) (count : Nat)
    (inside : ((Scanner.ofText (text ++ behind)).take count).2.position < text.length) :
    let s := (Scanner.ofText (text ++ behind)).take count
    let s' := (Scanner.ofText (text ++ other)).take count
    s'.1 = s.1 ∧ s'.2.position = s.2.position ∧ s.2.faults = [] ∧ s'.2.faults = [] := by
  intro s s'
  obtain ⟨given, left, stop, steps⟩ :=
    @Scanner.take_append text behind 0 [] count (by simpa [Scanner.ofText] using inside)
  have here : s = (given, ⟨left ++ behind, stop, []⟩) := steps behind
  have there : s' = (given, ⟨left ++ other, stop, []⟩) := steps other
  rw [here, there]
  exact ⟨rfl, rfl, rfl, rfl⟩

-- The bound is exact: a scanner that stands at the end may have looked behind it.
theorem tokens_ignore_what_follows_bang :
    ((Scanner.ofText ("\"\\\"\"a!".toList ++ "=".toList)).take 2).2.position = 5 ∧
      ((Scanner.ofText ("\"\\\"\"a!".toList ++ "\"".toList)).take 2).1 =
        [⟨.string, ['"'], 0⟩, ⟨.ident, ['a'], 4⟩] ∧
      ((Scanner.ofText (['!'] ++ [' '])).take 1).2.position = 1 ∧
      ((Scanner.ofText (['!'] ++ ['='])).take 1).1 ≠
        ((Scanner.ofText (['!'] ++ [' '])).take 1).1 := by
  have position : ((Scanner.ofText ("\"\\\"\"a!".toList ++ "=".toList)).take 2).2.position = 5 := by
    decide
  obtain ⟨sameTokens, -⟩ :=
    tokens_ignore_what_follows "\"\\\"\"a!".toList "=".toList "\"".toList 2
      (by rw [position]; decide)
  refine ⟨position, ?_, by decide, by decide⟩
  rw [sameTokens]
  decide

end Sprout

set_option autoImplicit false

namespace Sprout

def ascendsFrom (low : Nat) : List (Nat × Nat) → Bool
  | [] => true
  | (first, last) :: rest => low ≤ first && first ≤ last && ascendsFrom (last + 1) rest

structure CodePoints where
  ranges : List (Nat × Nat)
  ascends : ascendsFrom 0 ranges = true := by decide

namespace CodePoints

-- The order lets the search stop at the first range that begins above `n`.
def search (n : Nat) : List (Nat × Nat) → Bool
  | [] => false
  | (first, last) :: rest => first ≤ n && (n ≤ last || search n rest)

def contains (s : CodePoints) (c : Char) : Bool := search c.toNat s.ranges

theorem le_first_of_mem {low : Nat} {ranges : List (Nat × Nat)} {range : Nat × Nat}
    (ascends : ascendsFrom low ranges = true) (member : range ∈ ranges) : low ≤ range.1 := by
  induction ranges generalizing low with
  | nil => simp at member
  | cons head rest ih =>
    simp only [ascendsFrom, Bool.and_eq_true, decide_eq_true_eq] at ascends
    rcases List.mem_cons.mp member with rfl | member
    · exact ascends.1.1
    · have := ih ascends.2 member
      omega

theorem search_iff {n low : Nat} {ranges : List (Nat × Nat)}
    (ascends : ascendsFrom low ranges = true) :
    search n ranges = true ↔ ∃ range ∈ ranges, range.1 ≤ n ∧ n ≤ range.2 := by
  induction ranges generalizing low with
  | nil => simp [search]
  | cons head rest ih =>
    simp only [ascendsFrom, Bool.and_eq_true, decide_eq_true_eq] at ascends
    simp only [search, Bool.and_eq_true, Bool.or_eq_true, decide_eq_true_eq, ih ascends.2]
    constructor
    · rintro ⟨first, last | ⟨range, member, inside⟩⟩
      · exact ⟨head, List.mem_cons_self .., first, last⟩
      · exact ⟨range, List.mem_cons_of_mem _ member, inside⟩
    · rintro ⟨range, member, first, last⟩
      rcases List.mem_cons.mp member with rfl | member
      · exact ⟨first, .inl last⟩
      · have := le_first_of_mem ascends.2 member
        exact ⟨by omega, .inr ⟨range, member, first, last⟩⟩

theorem contains_iff (s : CodePoints) (c : Char) :
    s.contains c = true ↔ ∃ range ∈ s.ranges, range.1 ≤ c.toNat ∧ c.toNat ≤ range.2 :=
  search_iff s.ascends

end CodePoints

end Sprout

/-!
# Sets of code points

A set of code points is given as an ascending list of disjoint closed intervals.
-/

namespace SpendingLedger.Text

/-- Whether `n` lies in one of the intervals; the list ascends, so the search ends at the first
interval that begins above `n`. -/
def inRanges (n : Nat) : List (Nat × Nat) → Bool
  | [] => false
  | (lo, hi) :: rest => if n < lo then false else n ≤ hi || inRanges n rest

@[simp] theorem inRanges_nil (n : Nat) : inRanges n [] = false := rfl

theorem inRanges_cons (n lo hi : Nat) (rest : List (Nat × Nat)) :
    inRanges n ((lo, hi) :: rest) = if n < lo then false else n ≤ hi || inRanges n rest := rfl

/-- A member of the set lies in one of the listed intervals. -/
theorem exists_mem_of_inRanges {n : Nat} {ranges : List (Nat × Nat)} (h : inRanges n ranges) :
    ∃ r ∈ ranges, r.1 ≤ n ∧ n ≤ r.2 := by
  induction ranges with
  | nil => simp at h
  | cons r rest ih =>
    obtain ⟨lo, hi⟩ := r
    rw [inRanges_cons] at h
    split at h
    · simp at h
    · next hlo =>
      rcases Bool.or_eq_true_iff.1 h with h | h
      · exact ⟨(lo, hi), by simp, by simpa using hlo, by simpa using h⟩
      · obtain ⟨r, hr, hn⟩ := ih h
        exact ⟨r, by simp [hr], hn⟩

end SpendingLedger.Text

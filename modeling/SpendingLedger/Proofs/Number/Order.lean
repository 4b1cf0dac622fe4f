import SpendingLedger.Number.Binary64

/-!
# The order of binary floating-point numbers

All numbers but the one that is none stand in one line: each has a rank, an integer, and they
compare as their ranks do.  The infinities rank just beyond every finite number, and the two zeros
have one rank.

## Main definitions

* `Binary64.rank` — the place of a number among all numbers.
* `Binary64.isNegative` — the numbers with a minus sign.

## Main results

* `Binary64.lt_iff`, `Binary64.le_iff`, `Binary64.numEq_iff` — numbers compare as their ranks.
* `Binary64.le_or_lt` — of two numbers one is at most the other, or greater.
-/

namespace SpendingLedger.Binary64

/-- The place of a number among all numbers; what is no number has none. -/
def rank : Binary64 → Int
  | .nan => 0
  | .infinite s => signed s bound
  | .finite s u _ => signed s u

variable {x y z : Binary64}

theorem signed_lt_bound {s : Bool} {u : Nat} (h : Representable u) :
    -(bound : Int) < signed s u ∧ signed s u < bound := by
  have hu : u < bound := h.2
  unfold signed
  cases s
  · simp only [Bool.false_eq_true, if_false]
    omega
  · simp only [if_true]
    omega

/-- Two numbers compare as their ranks. -/
theorem compare?_eq (hx : x.isNaN = false) (hy : y.isNaN = false) :
    compare? x y = some (compare x.rank y.rank) := by
  cases x with
  | nan => cases hx
  | infinite s =>
    cases y with
    | nan => cases hy
    | infinite t =>
      have hpos : 0 < bound := bound_pos
      have hopposite : -(bound : Int) < bound := by omega
      rcases s with _ | _ <;> rcases t with _ | _
      · exact congrArg some (Int.compare_eq_eq.2 rfl).symm
      · exact congrArg some (Int.compare_eq_gt.2 hopposite).symm
      · exact congrArg some (Int.compare_eq_lt.2 hopposite).symm
      · exact congrArg some (Int.compare_eq_eq.2 rfl).symm
    | finite t v hv =>
      obtain ⟨hlow, hhigh⟩ := @signed_lt_bound t v hv
      rcases s with _ | _
      · exact congrArg some (Int.compare_eq_gt.2 hhigh).symm
      · exact congrArg some (Int.compare_eq_lt.2 hlow).symm
  | finite s u hu =>
    obtain ⟨hlow, hhigh⟩ := @signed_lt_bound s u hu
    cases y with
    | nan => cases hy
    | infinite t =>
      rcases t with _ | _
      · exact congrArg some (Int.compare_eq_lt.2 hhigh).symm
      · exact congrArg some (Int.compare_eq_gt.2 hlow).symm
    | finite t v hv => rfl

/-- What is no number compares with nothing. -/
theorem isNaN_of_compare? {o : Ordering} (h : compare? x y = some o) :
    x.isNaN = false ∧ y.isNaN = false := by
  cases x with
  | nan => cases h
  | infinite s =>
    cases y with
    | nan => cases h
    | infinite t => exact ⟨rfl, rfl⟩
    | finite t v hv => exact ⟨rfl, rfl⟩
  | finite s u hu =>
    cases y with
    | nan => cases h
    | infinite t => exact ⟨rfl, rfl⟩
    | finite t v hv => exact ⟨rfl, rfl⟩

theorem lt_iff : x.lt y = true ↔ x.isNaN = false ∧ y.isNaN = false ∧ x.rank < y.rank := by
  rw [lt, beq_iff_eq]
  constructor
  · intro h
    obtain ⟨hx, hy⟩ := isNaN_of_compare? h
    rw [compare?_eq hx hy, Option.some.injEq] at h
    exact ⟨hx, hy, Int.compare_eq_lt.1 h⟩
  · rintro ⟨hx, hy, hless⟩
    rw [compare?_eq hx hy, Int.compare_eq_lt.2 hless]

theorem le_iff : x.le y = true ↔ x.isNaN = false ∧ y.isNaN = false ∧ x.rank ≤ y.rank := by
  unfold le
  constructor
  · intro h
    split at h
    · next hless =>
      obtain ⟨hx, hy⟩ := isNaN_of_compare? hless
      rw [compare?_eq hx hy, Option.some.injEq] at hless
      exact ⟨hx, hy, Int.le_of_lt (Int.compare_eq_lt.1 hless)⟩
    · next hequal =>
      obtain ⟨hx, hy⟩ := isNaN_of_compare? hequal
      rw [compare?_eq hx hy, Option.some.injEq] at hequal
      exact ⟨hx, hy, Int.le_of_eq (Int.compare_eq_eq.1 hequal)⟩
    · cases h
  · rintro ⟨hx, hy, hle⟩
    rw [compare?_eq hx hy]
    rcases Int.lt_or_eq_of_le hle with hless | hequal
    · rw [Int.compare_eq_lt.2 hless]
    · rw [Int.compare_eq_eq.2 hequal]

theorem numEq_iff :
    x.numEq y = true ↔ x.isNaN = false ∧ y.isNaN = false ∧ x.rank = y.rank := by
  rw [numEq, beq_iff_eq]
  constructor
  · intro h
    obtain ⟨hx, hy⟩ := isNaN_of_compare? h
    rw [compare?_eq hx hy, Option.some.injEq] at h
    exact ⟨hx, hy, Int.compare_eq_eq.1 h⟩
  · rintro ⟨hx, hy, hequal⟩
    rw [compare?_eq hx hy, Int.compare_eq_eq.2 hequal]

theorem numEq_refl_of_isNaN (hx : x.isNaN = false) : x.numEq x = true :=
  numEq_iff.2 ⟨hx, hx, rfl⟩

/-- The zeros are equal, whatever their signs. -/
theorem numEq_ofUnits_zero (s t : Bool) : (ofUnits s 0).numEq (ofUnits t 0) = true := by
  rw [ofUnits_of_representable representable_zero, ofUnits_of_representable representable_zero]
  cases s <;> cases t <;> rfl

theorem numEq_zero (s : Bool) : (ofUnits s 0).numEq zero = true := by
  have hzero : ofUnits false 0 = zero := ofUnits_of_representable representable_zero
  exact hzero ▸ numEq_ofUnits_zero s false

/-! ### Laws of the order -/

theorem le_refl_of_isNaN (hx : x.isNaN = false) : x.le x = true :=
  le_iff.2 ⟨hx, hx, Int.le_refl _⟩

theorem le_trans (h : x.le y = true) (h' : y.le z = true) : x.le z = true := by
  obtain ⟨hx, -, hle⟩ := le_iff.1 h
  obtain ⟨-, hz, hle'⟩ := le_iff.1 h'
  exact le_iff.2 ⟨hx, hz, Int.le_trans hle hle'⟩

theorem le_of_lt (h : x.lt y = true) : x.le y = true := by
  obtain ⟨hx, hy, hless⟩ := lt_iff.1 h
  exact le_iff.2 ⟨hx, hy, Int.le_of_lt hless⟩

theorem not_lt_of_le (h : x.le y = true) : ¬ y.lt x = true := by
  intro hless
  obtain ⟨-, -, hle⟩ := le_iff.1 h
  obtain ⟨-, -, hlt⟩ := lt_iff.1 hless
  omega

/-- Of two numbers one is at most the other, or greater. -/
theorem le_or_lt (hx : x.isNaN = false) (hy : y.isNaN = false) : x.le y = true ∨ y.lt x = true := by
  by_cases hle : x.rank ≤ y.rank
  · exact Or.inl (le_iff.2 ⟨hx, hy, hle⟩)
  · exact Or.inr (lt_iff.2 ⟨hy, hx, by omega⟩)

/-- A quotient is a number, though it may be infinite. -/
theorem isNaN_ofRatio (negative : Bool) (num den : Nat) :
    (ofRatio negative num den).isNaN = false := by
  unfold ofRatio ofUnits
  split <;> rfl

/-! ### Signs -/

/-- Whether `x` has a minus sign; a zero may have one. -/
def isNegative : Binary64 → Bool
  | .nan => false
  | .infinite s => s
  | .finite s _ _ => s

theorem isNegative_neg_abs (hx : x.isNaN = false) : x.abs.neg.isNegative = true := by
  cases x with
  | nan => cases hx
  | infinite s => rfl
  | finite s u hu => rfl

@[simp] theorem isNaN_neg (x : Binary64) : x.neg.isNaN = x.isNaN := by
  cases x <;> rfl

@[simp] theorem isNaN_abs (x : Binary64) : x.abs.isNaN = x.isNaN := by
  cases x <;> rfl

end SpendingLedger.Binary64

import Mathlib.Algebra.Order.Field.Power
import Mathlib.Data.Rat.Cast.Order
import Mathlib.Tactic.NormNum
import Mathlib.Tactic.Positivity
import Mathlib.Tactic.Ring
import SpendingLedger.Proofs.Number.Rounding

/-!
# Numbers that are too large

Between the greatest finite magnitude and `2 ^ 1024`, the next power of two, lies the half-way point
`2 ^ 1024 - 2 ^ 970`.  The last bit of the greatest magnitude is one, so the half-way point itself
goes up: a quotient becomes infinite exactly if it reaches that point.  Everything below stays
finite, whatever it rounds to.

## Main definitions

* `Binary64.overflowThreshold` — the least integer that rounds to an infinity.
* `Numeral.magnitude` — the value of a numeral without its sign.

## Main results

* `Binary64.representable_roundUnits_iff` — a rounded magnitude is one of the format unless it is
  too large.
* `Binary64.isFinite_ofRatio_iff` — **the quotients with a finite nearest number.**
* `Binary64.ofInt?_eq_none_iff`, `Numeral.isFinite_toBinary64_iff` — the integers and the numerals.
-/

namespace SpendingLedger

namespace Binary64

/-! ### Rounded magnitudes -/

/-- A number below a power of two has its highest bit below that power's. -/
theorem log2_lt_of_lt_powerOfTwo {n k : Nat} (hk : 0 < k) (h : n < powerOfTwo k) :
    n.log2 < k := by
  by_cases hzero : n = 0
  · rwa [hzero, Nat.log2_zero]
  · exact (Nat.log2_lt hzero).2 h

theorem roundDiv_le (num den : Nat) : roundDiv num den ≤ num / den + 1 := by
  unfold roundDiv
  dsimp only
  split
  · omega
  · split <;> omega

/-- Above an odd integer one arrives from the half-way point on. -/
theorem lt_roundDiv_iff {num den m : Nat} (hden : 0 < den) (hm : m % 2 = 1) :
    m < roundDiv num den ↔ (2 * m + 1) * den ≤ 2 * num := by
  have hnum : num / den * den + num % den = num := Nat.div_add_mod' num den
  have hrest : num % den < den := Nat.mod_lt num hden
  have hodd : (2 * m + 1) * den = 2 * (m * den) + den := by ring
  rcases Nat.lt_trichotomy (num / den) m with hlt | heq | hgt
  · have hstep : (num / den + 1) * den ≤ m * den := Nat.mul_le_mul_right den hlt
    have hle := roundDiv_le num den
    rw [Nat.succ_mul] at hstep
    omega
  · -- the quotient is the odd integer, so a tie goes up
    unfold roundDiv
    dsimp only
    rw [heq] at hnum ⊢
    split
    · omega
    · split <;> omega
  · have hstep : (m + 1) * den ≤ num / den * den := Nat.mul_le_mul_right den hgt
    have hle := div_le_roundDiv num den
    rw [Nat.succ_mul] at hstep
    omega

theorem le_log2_of_powerOfTwo_le {n k : Nat} (h : powerOfTwo k ≤ n) : k ≤ n.log2 :=
  (Nat.le_log2 (Nat.lt_of_lt_of_le (powerOfTwo_pos k) h).ne').2 h

/-- At most 53 bits under a power of two are a magnitude of the format, unless it is too large. -/
theorem representable_mul_powerOfTwo {digits k : Nat} (hdigits : digits ≤ powerOfTwo 53)
    (hbound : digits * powerOfTwo k < bound) : Representable (digits * powerOfTwo k) := by
  refine ⟨Nat.mod_eq_zero_of_dvd ?_, hbound⟩
  by_cases hzero : digits = 0
  · rw [hzero, Nat.zero_mul]
    exact Nat.dvd_zero _
  rcases Nat.lt_or_ge digits (powerOfTwo 53) with hlt | hge
  · -- fewer than 54 bits: the highest one stands at most 52 places above the power
    have hlog : (digits * powerOfTwo k).log2 < 53 + k := by
      refine log2_lt_of_lt_powerOfTwo (by omega) ?_
      rw [powerOfTwo_add]
      exact Nat.mul_lt_mul_of_pos_right hlt (powerOfTwo_pos k)
    exact Nat.dvd_mul_left_of_dvd (Nat.pow_dvd_pow 2 (by omega)) digits
  · have hdigits : digits = powerOfTwo 53 := Nat.le_antisymm hdigits hge
    have hlog : (digits * powerOfTwo k).log2 = 53 + k := by
      rw [hdigits, ← powerOfTwo_add]
      exact Nat.log2_two_pow
    rw [hlog, hdigits, ← powerOfTwo_add]
    exact Nat.pow_dvd_pow 2 (by omega)

/-- The digits of a rounded quotient. -/
theorem roundDiv_le_powerOfTwo (num den : Nat) :
    roundDiv num (den * powerOfTwo ((num / den).log2 - 52)) ≤ powerOfTwo 53 := by
  have hlt : num / den < powerOfTwo 53 * powerOfTwo ((num / den).log2 - 52) := by
    rw [← powerOfTwo_add]
    exact Nat.lt_of_lt_of_le (lt_powerOfTwo_log2 _) (powerOfTwo_le_powerOfTwo (by omega))
  have hdigits : num / (den * powerOfTwo ((num / den).log2 - 52)) < powerOfTwo 53 := by
    rw [← Nat.div_div_eq_div_mul]
    exact Nat.div_lt_of_lt_mul (by rwa [Nat.mul_comm])
  exact Nat.le_trans (roundDiv_le _ _) hdigits

/-- A rounded magnitude is one of the format unless it is too large. -/
theorem representable_roundUnits_iff (num den : Nat) :
    Representable (roundUnits num den) ↔ roundUnits num den < bound :=
  ⟨And.right, representable_mul_powerOfTwo (roundDiv_le_powerOfTwo num den)⟩

/-! ### The half-way point -/

/-- The half-way point between the greatest finite magnitude and the next power of two. -/
def overflowThreshold : Nat := powerOfTwo 1024 - powerOfTwo 970

/-- In units the half-way point is the odd multiple of half a step. -/
theorem overflowThreshold_mul_one :
    overflowThreshold * one = (2 * (powerOfTwo 53 - 1) + 1) * powerOfTwo 2044 := by
  have hodd : 2 * (powerOfTwo 53 - 1) + 1 = powerOfTwo 54 - 1 := by decide
  rw [hodd, overflowThreshold, one, Nat.sub_mul, Nat.sub_mul, ← powerOfTwo_add, ← powerOfTwo_add,
    ← powerOfTwo_add, Nat.one_mul]

theorem overflowThreshold_lt : overflowThreshold * one < bound := by
  have hbound : bound = powerOfTwo 54 * powerOfTwo 2044 := (powerOfTwo_add 54 2044)
  rw [overflowThreshold_mul_one, hbound]
  exact Nat.mul_lt_mul_of_pos_right (by decide) (powerOfTwo_pos _)

theorem powerOfTwo_lt_overflowThreshold : powerOfTwo 2097 < overflowThreshold * one := by
  rw [overflowThreshold_mul_one, show 2097 = 53 + 2044 from rfl, powerOfTwo_add]
  exact Nat.mul_lt_mul_of_pos_right (by decide) (powerOfTwo_pos _)

theorem powerOfTwo_lt_bound : powerOfTwo 2097 < bound :=
  powerOfTwo_lt_overflowThreshold.trans overflowThreshold_lt

/-- A quotient below the last binade stays in the format. -/
theorem roundUnits_lt_bound {num den : Nat} (h : num / den < powerOfTwo 2097) :
    roundUnits num den < bound := by
  have hlog : (num / den).log2 < 2097 := log2_lt_of_lt_powerOfTwo (by decide) h
  have hround : roundUnits num den ≤ powerOfTwo 53 * powerOfTwo 2044 :=
    Nat.mul_le_mul (roundDiv_le_powerOfTwo num den) (powerOfTwo_le_powerOfTwo (by omega))
  rw [← powerOfTwo_add] at hround
  exact Nat.lt_of_le_of_lt hround powerOfTwo_lt_bound

/-- In the last binade the distance of neighbours is `2 ^ 2045` units. -/
theorem roundUnits_of_last_binade {num den : Nat} (hlow : powerOfTwo 2097 ≤ num / den)
    (hhigh : num / den < bound) :
    roundUnits num den = roundDiv num (den * powerOfTwo 2045) * powerOfTwo 2045 := by
  have hlog : (num / den).log2 = 2097 :=
    Nat.eq_of_le_of_lt_succ (le_log2_of_powerOfTwo_le hlow)
      (log2_lt_of_lt_powerOfTwo (by decide) hhigh)
  unfold roundUnits
  rw [hlog]

/-- A quotient is rounded out of the format exactly if it reaches the half-way point. -/
theorem bound_le_roundUnits_iff {num den : Nat} (hden : 0 < den) :
    bound ≤ roundUnits num den ↔ overflowThreshold * one * den ≤ num := by
  rcases Nat.lt_or_ge (num / den) (powerOfTwo 2097) with hlow | hlow
  · -- below the last binade neither holds
    have hnum : num < powerOfTwo 2097 * den := (Nat.div_lt_iff_lt_mul hden).1 hlow
    have hround : roundUnits num den < bound := roundUnits_lt_bound hlow
    have hthreshold : powerOfTwo 2097 * den ≤ overflowThreshold * one * den :=
      Nat.mul_le_mul_right den powerOfTwo_lt_overflowThreshold.le
    omega
  rcases Nat.lt_or_ge (num / den) bound with hhigh | hhigh
  · -- in the last binade the greatest magnitude is an odd multiple of the step
    have hsplit : bound = powerOfTwo 53 * powerOfTwo 2045 := powerOfTwo_add 53 2045
    have hdigits : powerOfTwo 53 ≤ roundDiv num (den * powerOfTwo 2045) ↔
        powerOfTwo 53 - 1 < roundDiv num (den * powerOfTwo 2045) := by
      have hpos : 0 < powerOfTwo 53 := powerOfTwo_pos 53
      omega
    have htwice : (2 * (powerOfTwo 53 - 1) + 1) * (den * powerOfTwo 2045) =
        2 * (overflowThreshold * one * den) := by
      rw [overflowThreshold_mul_one, powerOfTwo_succ 2044]
      ring
    rw [roundUnits_of_last_binade hlow hhigh, hsplit, Nat.mul_le_mul_right_iff (powerOfTwo_pos _),
      hdigits, lt_roundDiv_iff (Nat.mul_pos hden (powerOfTwo_pos _)) (by decide), htwice,
      Nat.mul_le_mul_left_iff Nat.two_pos]
  · -- above it both hold
    have hnum : bound * den ≤ num := (Nat.le_div_iff_mul_le hden).1 hhigh
    have hthreshold : overflowThreshold * one * den ≤ bound * den :=
      Nat.mul_le_mul_right den overflowThreshold_lt.le
    exact iff_of_true (powerOfTwo_le_roundUnits hhigh) (hthreshold.trans hnum)

/-! ### Finite nearest numbers -/

theorem isFinite_ofUnits_iff (negative : Bool) (units : Nat) :
    (ofUnits negative units).isFinite = true ↔ Representable units := by
  unfold ofUnits
  split
  · next h => exact iff_of_true rfl h
  · next h => exact iff_of_false (by simp [isFinite]) h

/-- A quotient has a finite nearest number exactly if it lies below the half-way point. -/
theorem isFinite_ofRatio_iff {negative : Bool} {num den : Nat} (hden : 0 < den) :
    (ofRatio negative num den).isFinite = true ↔ num < overflowThreshold * den := by
  rw [ofRatio, isFinite_ofUnits_iff, representable_roundUnits_iff, ← not_le,
    bound_le_roundUnits_iff hden, Nat.mul_right_comm, Nat.mul_le_mul_right_iff one_pos, not_le]

/-- An integer has no nearest number exactly if it reaches the half-way point. -/
theorem ofInt?_eq_none_iff (n : Int) : ofInt? n = none ↔ overflowThreshold ≤ n.natAbs := by
  have hfinite := @isFinite_ofRatio_iff (n < 0) n.natAbs 1 Nat.one_pos
  rw [Nat.mul_one] at hfinite
  rw [← not_lt, ← hfinite, ofInt?, ofRatio, ofUnits]
  split <;> simp [bounded?, isFinite]

end Binary64

namespace Numeral

open Binary64

/-- The value of a numeral without its sign. -/
def magnitude (x : Numeral) : ℚ := x.coefficient * 10 ^ x.exponent

/-- A value below an integer, with the power of ten on the side where it is one. -/
theorem magnitude_lt_iff (x : Numeral) (n : Nat) :
    x.magnitude < n ↔
      x.coefficient * powerOfTen x.exponent.toNat < n * powerOfTen (-x.exponent).toNat := by
  have hcast : ∀ k : Nat, (powerOfTen k : ℚ) = 10 ^ k := fun k => Nat.cast_pow 10 k
  have hsplit : (10 : ℚ) ^ x.exponent = 10 ^ x.exponent.toNat / 10 ^ (-x.exponent).toNat := by
    rw [← zpow_natCast, ← zpow_natCast, ← zpow_sub₀ (by norm_num)]
    congr 1
    omega
  have hpos : (0 : ℚ) < 10 ^ (-x.exponent).toNat := by positivity
  rw [magnitude, hsplit, ← mul_div_assoc, div_lt_iff₀ hpos, ← hcast, ← hcast, ← Nat.cast_mul,
    ← Nat.cast_mul, Nat.cast_lt]

/-- The number of a numeral is finite exactly if its value lies below the half-way point. -/
theorem isFinite_toBinary64_iff (x : Numeral) :
    x.toBinary64.isFinite = true ↔ x.magnitude < overflowThreshold := by
  rw [toBinary64_eq_ofRatio, isFinite_ofRatio_iff (powerOfTen_pos _), magnitude_lt_iff]

end Numeral

end SpendingLedger

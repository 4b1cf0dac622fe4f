import SpendingLedger.Number.Numeral

/-!
# Rounding

The number nearest to a quotient depends on the value of the quotient alone.  A magnitude of the
format is its own nearest number, a power of two below a quotient stays below the result, and a
quotient less than one half goes to zero.  So the powers of ten that `Numeral.toBinary64` does not
compute are those that make no difference, and two numerals of one value give one number.

## Main results

* `Binary64.ofRatio_congr` — **rounding depends on the value of the quotient.**
* `Binary64.ofRatio_of_representable` — a magnitude of the format is kept.
* `Numeral.toBinary64_eq_ofRatio` — **the number of a numeral is the one nearest to its value.**
* `Numeral.toBinary64_shift` — a power of ten may stand in the coefficient or in the exponent.
-/

namespace SpendingLedger

theorem powerOfTwo_add (m n : Nat) : powerOfTwo (m + n) = powerOfTwo m * powerOfTwo n :=
  Nat.pow_add 2 m n

theorem powerOfTen_add (m n : Nat) : powerOfTen (m + n) = powerOfTen m * powerOfTen n :=
  Nat.pow_add 10 m n

theorem powerOfTen_eq (n : Nat) : powerOfTen n = Nat.pow 5 n * powerOfTwo n := Nat.mul_pow 5 2 n

theorem powerOfTwo_le_powerOfTwo {m n : Nat} (h : m ≤ n) : powerOfTwo m ≤ powerOfTwo n :=
  Nat.pow_le_pow_right (by decide) h

theorem powerOfTen_le_powerOfTen {m n : Nat} (h : m ≤ n) : powerOfTen m ≤ powerOfTen n :=
  Nat.pow_le_pow_right (by decide) h

theorem powerOfTwo_log2_le {n : Nat} (h : n ≠ 0) : powerOfTwo n.log2 ≤ n := Nat.log2_self_le h

theorem lt_powerOfTwo_log2 (n : Nat) : n < powerOfTwo (n.log2 + 1) := Nat.lt_log2_self

/-- Ten is more than the third power of two. -/
theorem powerOfTwo_three_mul_le (n : Nat) : powerOfTwo (3 * n) ≤ powerOfTen n := by
  induction n with
  | zero => exact Nat.le_refl _
  | succ n ih =>
    rw [Nat.mul_succ, powerOfTwo_add, powerOfTen_succ, Nat.mul_comm]
    exact Nat.mul_le_mul (by decide) ih

/-- Ten is less than the fourth power of two. -/
theorem powerOfTen_le_powerOfTwo (n : Nat) : powerOfTen n ≤ powerOfTwo (4 * n) := by
  induction n with
  | zero => exact Nat.le_refl _
  | succ n ih =>
    rw [Nat.mul_succ, powerOfTwo_add, powerOfTen_succ, Nat.mul_comm]
    exact Nat.mul_le_mul ih (by decide)

namespace Binary64

/-! ### Rounding to an integer -/

theorem roundDiv_mul_right (num den : Nat) {k : Nat} (hk : 0 < k) :
    roundDiv (num * k) (den * k) = roundDiv num den := by
  have hquot : num * k / (den * k) = num / den := Nat.mul_div_mul_right num den hk
  have hrest : num * k % (den * k) = num % den * k := Nat.mul_mod_mul_right k num den
  have hlow : 2 * (num % den * k) < den * k ↔ 2 * (num % den) < den := by
    rw [← Nat.mul_assoc]
    exact Nat.mul_lt_mul_right hk
  have hhigh : den * k < 2 * (num % den * k) ↔ den < 2 * (num % den) := by
    rw [← Nat.mul_assoc]
    exact Nat.mul_lt_mul_right hk
  simp only [roundDiv, hquot, hrest, hlow, hhigh]

/-- An integer is its own nearest integer. -/
theorem roundDiv_mul_self (q : Nat) {den : Nat} (hden : 0 < den) : roundDiv (q * den) den = q := by
  have hquot : q * den / den = q := Nat.mul_div_cancel q hden
  have hrest : q * den % den = 0 := Nat.mul_mod_left q den
  simp [roundDiv, hquot, hrest, hden]

theorem div_le_roundDiv (num den : Nat) : num / den ≤ roundDiv num den := by
  unfold roundDiv
  dsimp only
  split
  · exact Nat.le_refl _
  · split <;> omega

theorem roundDiv_of_two_mul_lt {num den : Nat} (h : 2 * num < den) : roundDiv num den = 0 := by
  have hlt : num < den := by omega
  simp [roundDiv, Nat.div_eq_of_lt hlt, Nat.mod_eq_of_lt hlt, h]

/-! ### Rounding to a magnitude -/

theorem roundUnits_mul_right (num den : Nat) {k : Nat} (hk : 0 < k) :
    roundUnits (num * k) (den * k) = roundUnits num den := by
  have hquot : num * k / (den * k) = num / den := Nat.mul_div_mul_right num den hk
  unfold roundUnits
  dsimp only
  rw [hquot, Nat.mul_right_comm den k, roundDiv_mul_right _ _ hk]

theorem roundUnits_congr {num den num' den' : Nat} (hden : 0 < den) (hden' : 0 < den')
    (h : num * den' = num' * den) : roundUnits num den = roundUnits num' den' := by
  rw [← roundUnits_mul_right num den hden', ← roundUnits_mul_right num' den' hden, h,
    Nat.mul_comm den den']

/-- A magnitude of the format is kept. -/
theorem roundUnits_of_representable {units den : Nat} (hden : 0 < den)
    (h : Representable units) : roundUnits (units * den) den = units := by
  have hstep : 0 < powerOfTwo (units.log2 - 52) := powerOfTwo_pos _
  have hquot : units * den / den = units := Nat.mul_div_cancel units hden
  obtain ⟨q, hq⟩ : powerOfTwo (units.log2 - 52) ∣ units := Nat.dvd_of_mod_eq_zero h.1
  unfold roundUnits
  rw [hquot]
  dsimp only
  generalize powerOfTwo (units.log2 - 52) = step at hstep hq
  have hnum : units * den = q * (den * step) := by
    rw [hq, Nat.mul_comm step q, Nat.mul_assoc, Nat.mul_comm step den]
  rw [hnum, roundDiv_mul_self q (Nat.mul_pos hden hstep), hq, Nat.mul_comm]

/-- A power of two that is at most the quotient is at most the result. -/
theorem powerOfTwo_le_roundUnits {num den k : Nat} (h : powerOfTwo k ≤ num / den) :
    powerOfTwo k ≤ roundUnits num den := by
  have hne : num / den ≠ 0 := Nat.ne_of_gt (Nat.lt_of_lt_of_le (powerOfTwo_pos k) h)
  have hk : k ≤ (num / den).log2 := (Nat.le_log2 hne).2 h
  have hstep : 0 < powerOfTwo ((num / den).log2 - 52) := powerOfTwo_pos _
  -- the step divides the highest power of two in the quotient
  have hsplit : powerOfTwo (num / den).log2 =
      powerOfTwo ((num / den).log2 - ((num / den).log2 - 52))
        * powerOfTwo ((num / den).log2 - 52) := by
    rw [← powerOfTwo_add]
    congr 1
    omega
  have hdigits : powerOfTwo ((num / den).log2 - ((num / den).log2 - 52)) ≤
      num / (den * powerOfTwo ((num / den).log2 - 52)) := by
    rw [← Nat.div_div_eq_div_mul, Nat.le_div_iff_mul_le hstep, ← hsplit]
    exact powerOfTwo_log2_le hne
  calc powerOfTwo k
      ≤ powerOfTwo (num / den).log2 := powerOfTwo_le_powerOfTwo hk
    _ = _ := hsplit
    _ ≤ roundUnits num den :=
      Nat.mul_le_mul_right _ (Nat.le_trans hdigits (div_le_roundDiv _ _))

/-- A quotient less than one half goes to zero. -/
theorem roundUnits_of_two_mul_lt {num den : Nat} (h : 2 * num < den) : roundUnits num den = 0 := by
  have hquot : num / den = 0 := Nat.div_eq_of_lt (by omega)
  have hstep : powerOfTwo (Nat.log2 0 - 52) = 1 := by rw [Nat.log2_zero]; rfl
  unfold roundUnits
  rw [hquot, hstep, Nat.mul_one, Nat.mul_one]
  exact roundDiv_of_two_mul_lt h

@[simp] theorem roundUnits_zero (den : Nat) : roundUnits 0 den = 0 := by
  simp [roundUnits, roundDiv]

/-! ### Rounding of quotients -/

/-- Rounding depends on the value of the quotient alone. -/
theorem ofRatio_congr {negative : Bool} {num den num' den' : Nat} (hden : 0 < den)
    (hden' : 0 < den') (h : num * den' = num' * den) :
    ofRatio negative num den = ofRatio negative num' den' := by
  have hunits : num * one * den' = num' * one * den := by
    rw [Nat.mul_right_comm, h, Nat.mul_right_comm]
  unfold ofRatio
  rw [roundUnits_congr hden hden' hunits]

/-- A quotient whose value is a magnitude of the format gives that magnitude. -/
theorem ofRatio_of_representable {negative : Bool} {num den units : Nat} (hden : 0 < den)
    (hunits : Representable units) (h : num * one = units * den) :
    ofRatio negative num den = .finite negative units hunits := by
  unfold ofRatio
  rw [h, roundUnits_of_representable hden hunits, ofUnits_of_representable hunits]

theorem ofUnits_of_bound_le {negative : Bool} {units : Nat} (h : bound ≤ units) :
    ofUnits negative units = .infinite negative := by
  unfold ofUnits
  exact dif_neg fun hr => absurd hr.2 (Nat.not_lt.2 h)

/-- A quotient of at least `2 ^ 1024` is too large. -/
theorem ofRatio_of_powerOfTwo_le {negative : Bool} {num : Nat} (h : powerOfTwo 1024 ≤ num) :
    ofRatio negative num 1 = .infinite negative := by
  have hunits : powerOfTwo 2098 ≤ num * one / 1 := by
    rw [Nat.div_one, show 2098 = 1024 + 1074 from rfl, powerOfTwo_add]
    exact Nat.mul_le_mul_right _ h
  exact ofUnits_of_bound_le (powerOfTwo_le_roundUnits hunits)

end Binary64

namespace Numeral

open Binary64

/-! ### The number of a numeral -/

theorem toBinary64_zero (negative : Bool) (exponent : Int) :
    (Numeral.mk negative 0 exponent).toBinary64 = ofUnits negative 0 := by
  rw [toBinary64, if_pos rfl]

theorem powerOfTwo_le_powerOfTen : powerOfTwo 1024 ≤ powerOfTen 400 :=
  Nat.le_trans (powerOfTwo_le_powerOfTwo (by decide)) (powerOfTwo_three_mul_le 400)

/-- The powers of ten that are not computed make no difference: the number of a numeral is the one
nearest to its value. -/
theorem toBinary64_eq_ofRatio (x : Numeral) :
    x.toBinary64 = ofRatio x.negative (x.coefficient * powerOfTen x.exponent.toNat)
      (powerOfTen (-x.exponent).toNat) := by
  obtain ⟨negative, c, e⟩ := x
  unfold toBinary64
  dsimp only
  by_cases hzero : c = 0
  · rw [if_pos hzero, hzero]
    simp [ofRatio]
  have hone : 1 ≤ c := Nat.one_le_iff_ne_zero.2 hzero
  rw [if_neg hzero]
  by_cases hlarge : 400 < e
  · rw [if_pos hlarge]
    have hden : (-e).toNat = 0 := by omega
    have hpow : powerOfTen 400 ≤ powerOfTen e.toNat := powerOfTen_le_powerOfTen (by omega)
    have hnum : powerOfTwo 1024 ≤ c * powerOfTen e.toNat :=
      Nat.le_trans powerOfTwo_le_powerOfTen (Nat.le_trans hpow (Nat.le_mul_of_pos_left _ hone))
    rw [hden]
    exact (ofRatio_of_powerOfTwo_le hnum).symm
  rw [if_neg hlarge]
  by_cases hsmall : c.log2 + 1100 < 3 * (-e).toNat
  · rw [if_pos hsmall]
    have hnum : e.toNat = 0 := by omega
    -- twice the units of the coefficient lie below the power of two that ten's exceeds
    have hlt : 2 * (c * one) < powerOfTen (-e).toNat := by
      calc 2 * (c * one)
          < 2 * (powerOfTwo (c.log2 + 1) * one) :=
            Nat.mul_lt_mul_of_pos_left
              (Nat.mul_lt_mul_of_pos_right (lt_powerOfTwo_log2 c) Binary64.one_pos) Nat.two_pos
        _ = powerOfTwo (c.log2 + 1 + 1074 + 1) := by
            rw [powerOfTwo_succ (c.log2 + 1 + 1074), powerOfTwo_add (c.log2 + 1) 1074, one]
        _ ≤ powerOfTwo (3 * (-e).toNat) := powerOfTwo_le_powerOfTwo (by omega)
        _ ≤ powerOfTen (-e).toNat := powerOfTwo_three_mul_le _
    rw [hnum, show powerOfTen 0 = 1 from rfl, Nat.mul_one]
    unfold ofRatio
    rw [roundUnits_of_two_mul_lt hlt]
  rw [if_neg hsmall]
  by_cases hneg : e < 0
  · have hnum : e.toNat = 0 := by omega
    rw [if_pos hneg, hnum, show powerOfTen 0 = 1 from rfl, Nat.mul_one]
  · have hden : (-e).toNat = 0 := by omega
    rw [if_neg hneg, hden]
    rfl

/-- A power of ten may stand in the coefficient or in the exponent. -/
theorem toBinary64_shift (negative : Bool) (coefficient k : Nat) (exponent : Int) :
    (Numeral.mk negative (coefficient * powerOfTen k) exponent).toBinary64 =
      (Numeral.mk negative coefficient (exponent + k)).toBinary64 := by
  rw [toBinary64_eq_ofRatio, toBinary64_eq_ofRatio]
  refine ofRatio_congr (powerOfTen_pos _) (powerOfTen_pos _) ?_
  dsimp only
  rw [Nat.mul_assoc, Nat.mul_assoc, Nat.mul_assoc, ← powerOfTen_add, ← powerOfTen_add,
    ← powerOfTen_add]
  congr 2
  omega

/-- The sign of a numeral is the sign of its number. -/
theorem toBinary64_of_positive {coefficient units : Nat} {exponent : Int} {negative : Bool}
    {h : Representable units}
    (hx : (Numeral.mk false coefficient exponent).toBinary64 = .finite negative units h)
    (sign : Bool) :
    (Numeral.mk sign coefficient exponent).toBinary64 = .finite sign units h := by
  rw [toBinary64_eq_ofRatio] at hx ⊢
  unfold ofRatio ofUnits at hx ⊢
  split at hx
  · cases hx
    rw [dif_pos h]
  · cases hx

end Numeral

end SpendingLedger

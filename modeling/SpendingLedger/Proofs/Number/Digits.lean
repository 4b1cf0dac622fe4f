import SpendingLedger.Proofs.Number.Rounding
import SpendingLedger.Proofs.Text.Trim
import SpendingLedger.Number.Shortest

/-!
# Decimal digits

The digits of a number are read back as that number, zeros before them add nothing and zeros behind
them multiply by ten.  The shortest decimal of a magnitude reads back as that magnitude.

## Main results

* `digitsValue_natDigits` — the digits of a number write that number.
* `exists_trimmed_zeros` — what is taken off at the end of digits is a power of ten.
* `Binary64.toBinary64_shortest` — **the shortest decimal of a magnitude reads back as it.**
-/

namespace SpendingLedger

/-! ### The value of digits -/

theorem digitsValue_eq (cs : List Char) : digitsValue cs = Nat.ofDigitChars 10 cs 0 := rfl

theorem digitsValue_append (as bs : List Char) :
    digitsValue (as ++ bs) = digitsValue as * powerOfTen bs.length + digitsValue bs := by
  rw [digitsValue_eq, Nat.ofDigitChars_append, Nat.ofDigitChars_eq_ofDigitChars_zero, Nat.mul_comm]
  rfl

theorem digitsValue_zeros (n : Nat) : digitsValue (List.replicate n '0') = 0 := by
  rw [digitsValue_eq, Nat.ofDigitChars_replicate_zero, Nat.mul_zero]

/-- Zeros before digits add nothing. -/
theorem digitsValue_zeros_append (n : Nat) (cs : List Char) :
    digitsValue (List.replicate n '0' ++ cs) = digitsValue cs := by
  rw [digitsValue_append, digitsValue_zeros, Nat.zero_mul, Nat.zero_add]

/-- Each zero behind digits multiplies their value by ten. -/
theorem digitsValue_append_zeros (cs : List Char) (n : Nat) :
    digitsValue (cs ++ List.replicate n '0') = digitsValue cs * powerOfTen n := by
  rw [digitsValue_append, digitsValue_zeros, List.length_replicate, Nat.add_zero]

/-! ### The digits of a number -/

theorem digitsValue_natDigits (n : Nat) : digitsValue (natDigits n) = n :=
  Nat.ofDigitChars_ten_toDigits

theorem natDigits_ne_nil (n : Nat) : natDigits n ≠ [] := Nat.toDigits_ne_nil

theorem isDigit_of_mem_natDigits {n : Nat} {c : Char} (h : c ∈ natDigits n) : c.isDigit = true :=
  Nat.isDigit_of_mem_toDigits (by decide) (by decide) h

/-- The digits of a positive number do not begin with a zero. -/
theorem head?_natDigits_ne {n : Nat} (hn : n ≠ 0) : (natDigits n).head? ≠ some '0' := by
  induction n using Nat.strongRecOn with
  | ind n ih =>
    unfold natDigits
    by_cases hlt : n < 10
    · rw [Nat.toDigits_of_lt_base hlt]
      simpa using hn
    · have hle : 10 ≤ n := Nat.le_of_not_lt hlt
      have hquot : (natDigits (n / 10)).head? ≠ some '0' := ih (n / 10) (by omega) (by omega)
      rw [Nat.toDigits_of_base_le (by decide) hle, List.head?_append]
      cases hdigits : (natDigits (n / 10)).head? with
      | none => exact absurd (List.head?_eq_none_iff.1 hdigits) (natDigits_ne_nil _)
      | some d =>
        rw [hdigits] at hquot
        rw [show (Nat.toDigits 10 (n / 10)).head? = some d from hdigits]
        exact hquot

theorem isDigit_of_mem_zeros {n : Nat} {c : Char} (h : c ∈ List.replicate n '0') :
    c.isDigit = true := by
  rw [List.eq_of_mem_replicate h]
  decide

/-- A number that is padded with zeros is written with digits. -/
theorem isDigit_of_mem_padLeft {width n : Nat} {c : Char}
    (h : c ∈ Text.padLeft '0' width (natDigits n)) : c.isDigit = true := by
  rcases List.mem_append.1 h with h | h
  · exact isDigit_of_mem_zeros h
  · exact isDigit_of_mem_natDigits h

/-- A number that is padded with zeros keeps its value. -/
theorem digitsValue_padLeft (width n : Nat) :
    digitsValue (Text.padLeft '0' width (natDigits n)) = n := by
  rw [Text.padLeft, digitsValue_zeros_append, digitsValue_natDigits]

/-! ### Signs -/

/-- No sign is taken from a text that begins with none. -/
theorem takeSign_cons_of_ne {c : Char} (hplus : c ≠ '+') (hminus : c ≠ '-') {cs : List Char} :
    takeSign (c :: cs) = (false, c :: cs) := by
  unfold takeSign
  split
  · next heq => exact absurd (List.cons.inj heq).1 hplus
  · next heq => exact absurd (List.cons.inj heq).1 hminus
  · rfl

/-! ### Zeros at the end -/

/-- Digits are those that remain without the zeros at the end, and these zeros. -/
theorem exists_trimmed_zeros (cs : List Char) :
    ∃ k, cs = Text.trimRightBy (· == '0') cs ++ List.replicate k '0' := by
  obtain ⟨tail, hcs, htail⟩ := Text.exists_trimRightBy (· == '0') cs
  refine ⟨tail.length, ?_⟩
  rw [← List.eq_replicate_of_mem fun c hc => eq_of_beq (htail c hc)]
  exact hcs

/-! ### Shortest decimals -/

namespace Binary64

theorem toBinary64_of_readsBack {units coefficient : Nat} {exponent : Int}
    (h : readsBack units coefficient exponent = true) (hunits : Representable units)
    (negative : Bool) :
    (Numeral.mk negative coefficient exponent).toBinary64 = .finite negative units hunits := by
  unfold readsBack at h
  split at h
  · next s u hu heq =>
    have hsign : s = false := by
      rw [Numeral.toBinary64_eq_ofRatio] at heq
      unfold ofRatio ofUnits at heq
      split at heq <;> cases heq
      rfl
    subst hsign
    obtain rfl : u = units := eq_of_beq h
    exact Numeral.toBinary64_of_positive heq negative
  · cases h

/-- A decimal of any size that is taken reads back. -/
theorem readsBack_of_ofSize {units size coefficient : Nat} {exponent : Int}
    (h : ofSize units size = some (coefficient, exponent)) :
    readsBack units coefficient exponent = true := by
  unfold ofSize at h
  dsimp only at h
  split at h
  · next hlow =>
    cases h
    exact (Bool.and_eq_true_iff.1 hlow).1
  · split at h
    · next hhigh =>
      cases h
      exact hhigh
    · cases h

/-- The exact decimal of a magnitude is that magnitude over the power of ten of its last digit. -/
theorem scaled_mul_one (units : Nat) : scaled units * one = units * powerOfTen 1074 := by
  have hpow (n : Nat) : units * Nat.pow 5 n * powerOfTwo n = units * powerOfTen n := by
    rw [powerOfTen_eq, Nat.mul_assoc]
  unfold scaled one
  apply hpow

/-- The exact decimal of a magnitude reads back. -/
theorem toBinary64_scaled {units : Nat} (h : Representable units) (negative : Bool) :
    (Numeral.mk negative (scaled units) (-1074)).toBinary64 = .finite negative units h := by
  rw [Numeral.toBinary64_eq_ofRatio]
  refine ofRatio_of_representable (powerOfTen_pos _) h ?_
  have hnum : Int.toNat (-1074) = 0 := rfl
  have hden : Int.toNat (- -1074) = 1074 := rfl
  rw [hnum, hden, show powerOfTen 0 = 1 from rfl, Nat.mul_one, scaled_mul_one]

/-- The shortest decimal of a magnitude reads back as that magnitude. -/
theorem toBinary64_shortest {units : Nat} (h : Representable units) (negative : Bool) :
    (Numeral.mk negative (shortest units).1 (shortest units).2).toBinary64 =
      .finite negative units h := by
  unfold shortest
  cases hfound : (List.range' 1 17).findSome? (ofSize units) with
  | none => exact toBinary64_scaled h negative
  | some found =>
    obtain ⟨size, _, hsize⟩ := List.exists_of_findSome?_eq_some hfound
    exact toBinary64_of_readsBack (readsBack_of_ofSize hsize) h negative

/-- The shortest decimal of a magnitude other than zero is not zero. -/
theorem coefficient_shortest_ne_zero {units : Nat} (h : Representable units) (hne : units ≠ 0) :
    (shortest units).1 ≠ 0 := by
  intro hzero
  have hreads := toBinary64_shortest h false
  rw [hzero, Numeral.toBinary64_zero, ofUnits_of_representable representable_zero] at hreads
  cases hreads
  exact hne rfl

/-- The exact decimal of a magnitude has at most 2099 digits. -/
theorem length_natDigits_le_of_le_scaled {units n : Nat} (h : Representable units)
    (hn : n ≤ scaled units + 1) : (natDigits n).length ≤ 2099 := by
  have hstep (k : Nat) : units * Nat.pow 5 k + 1 ≤ bound * Nat.pow 5 k := by
    have hpos : 0 < Nat.pow 5 k := Nat.pow_pos (by decide)
    have hunits := Nat.mul_le_mul_right (Nat.pow 5 k) h.2
    rw [Nat.succ_mul] at hunits
    omega
  have hscaled : scaled units + 1 ≤ bound * Nat.pow 5 1074 := by
    unfold scaled
    apply hstep
  have hbound : bound * Nat.pow 5 1074 < 10 ^ 2099 := by decide +kernel
  refine (Nat.length_toDigits_le_iff (by decide) (by decide)).2 ?_
  exact Nat.lt_of_le_of_lt (Nat.le_trans hn hscaled) hbound

/-- A magnitude has at most 2099 digits, so its shortest decimal has no more, and neither a great
nor a small exponent. -/
theorem shortest_bounds {units : Nat} (h : Representable units) :
    (natDigits (shortest units).1).length ≤ 2099 ∧
      -1074 ≤ (shortest units).2 ∧ (shortest units).2 ≤ 1025 := by
  have hdigits : (natDigits (scaled units)).length ≤ 2099 :=
    length_natDigits_le_of_le_scaled h (Nat.le_succ _)
  have hbelow : ∀ drop, scaled units / powerOfTen drop ≤ scaled units := fun drop =>
    Nat.div_le_self _ _
  -- the grid leaves out no more digits than there are
  have hexponent : ∀ size, -1074 ≤ (((natDigits (scaled units)).length - size : Nat) - 1074 : Int) ∧
      (((natDigits (scaled units)).length - size : Nat) - 1074 : Int) ≤ 1025 := by
    intro size
    omega
  unfold shortest
  cases hfound : (List.range' 1 17).findSome? (ofSize units) with
  | none => exact ⟨hdigits, Int.le_refl _, by simp⟩
  | some found =>
    obtain ⟨size, -, hsize⟩ := List.exists_of_findSome?_eq_some hfound
    rw [Option.getD_some]
    unfold ofSize at hsize
    dsimp only at hsize
    split at hsize
    · cases hsize
      exact ⟨length_natDigits_le_of_le_scaled h (Nat.le_succ_of_le (hbelow _)), hexponent size⟩
    · split at hsize
      · cases hsize
        exact ⟨length_natDigits_le_of_le_scaled h (Nat.succ_le_succ (hbelow _)), hexponent size⟩
      · cases hsize

end Binary64

end SpendingLedger

import SpendingLedger.Proofs.Amount.Finite
import SpendingLedger.Proofs.Number.Spelling

/-!
# Numerals as amounts

A plain numeral is an amount.  Its sign is taken off as a decoration, and what is left is read as a
decimal without a sign; nothing else in a numeral is a decoration, a comma or space.  So the amount
of a numeral is the binary64 number of that numeral, as long as its exponent lies within the limits
of decimals.

## Main results

* `Amount.undecorate_of_numeral` — the sign of a numeral is all that decorates it.
* `Amount.parse_of_numeral` — **the amount of a numeral.**
-/

namespace SpendingLedger

/-! ### Signs -/

theorem Binary64.ofRatio_true (num den : Nat) :
    ofRatio true num den = (ofRatio false num den).abs.neg := by
  unfold ofRatio ofUnits
  split <;> rfl

/-- A numeral behind a minus sign is minus the absolute value of the numeral. -/
theorem Numeral.toBinary64_negative (x : Numeral) :
    x.toBinary64 =
      if x.negative then ({ x with negative := false } : Numeral).toBinary64.abs.neg
      else ({ x with negative := false } : Numeral).toBinary64 := by
  obtain ⟨negative, coefficient, exponent⟩ := x
  rw [toBinary64_eq_ofRatio, toBinary64_eq_ofRatio]
  cases negative with
  | false => rw [if_neg Bool.false_ne_true]
  | true => rw [if_pos rfl, Binary64.ofRatio_true]

/-! ### Limits -/

/-- A numeral of no more digits than are read, beyond the limits of decimals, is infinite as a
binary64 number, or a zero. -/
theorem Numeral.toBinary64_of_not_inLimits {x : Numeral}
    (hdigits : x.coefficient ≠ 0 → (natDigits x.coefficient).length ≤ digitLimit)
    (hfinite : x.toBinary64.isFinite = true) (hlimits : Decimal.inLimits x = false) :
    x.toBinary64 = .ofUnits x.negative 0 := by
  by_cases hzero : x.coefficient = 0
  · rw [toBinary64, if_pos hzero]
  have hlength := hdigits hzero
  have hlog : x.coefficient.log2 < 4 * (natDigits x.coefficient).length := by
    have hpos : 0 < (natDigits x.coefficient).length := List.length_pos_iff.2 (natDigits_ne_nil _)
    have hlt : x.coefficient < powerOfTen (natDigits x.coefficient).length :=
      (Nat.length_toDigits_le_iff (by decide) hpos).1 (Nat.le_refl _)
    exact Binary64.log2_lt_of_lt_powerOfTwo (by omega) (hlt.trans_le (powerOfTen_le_powerOfTwo _))
  unfold Decimal.inLimits Decimal.leastExponent Decimal.greatestPower at hlimits
  simp only [Bool.and_eq_false_iff, decide_eq_false_iff_not, not_le] at hlimits
  unfold digitLimit at hlength
  rw [toBinary64, if_neg hzero] at hfinite ⊢
  by_cases hlarge : 400 < x.exponent
  · rw [if_pos hlarge] at hfinite
    cases hfinite
  · rw [if_neg hlarge, if_pos (by omega)]

namespace Amount

variable {cs : List Char} {x : Numeral}

/-! ### The text of a numeral -/

theorem isNumeralChar_of_numeral (h : Numeral.parse? (commonDigits cs) = some x) :
    ∀ c ∈ cs, IsNumeralChar c := fun _ hc =>
  .of_commonDigit (Numeral.isNumeralChar_of_parse? h _ (List.mem_map_of_mem hc))

theorem exists_head_of_numeral (h : Numeral.parse? (commonDigits cs) = some x) :
    ∃ c rest, (takeSign cs).2 = c :: rest ∧ (Text.isDecimalDigit c = true ∨ c = '.') := by
  obtain ⟨d, ds, hbody, hd⟩ := Numeral.exists_head_of_parse? h
  rw [takeSign_commonDigits] at hbody
  cases hcs : (takeSign cs).2 with
  | nil =>
    rw [hcs] at hbody
    cases hbody
  | cons c rest =>
    rw [hcs] at hbody
    obtain ⟨rfl, -⟩ := List.cons.inj hbody
    refine ⟨c, rest, rfl, hd.imp (fun hdigit => ?_) (commonDigit_eq_iff (by decide) (by decide)).1⟩
    exact (isDigit_commonDigit c).symm.trans hdigit

/-- Neither a digit nor the point is a decoration. -/
theorem peel?_of_head {c : Char} (hc : Text.isDecimalDigit c = true ∨ c = '.')
    (rest : List Char) : peel? (c :: rest) = none := by
  have hne : ∀ mark, Text.isDecimalDigit mark = false → mark ≠ '.' → c ≠ mark := by
    rintro mark hmark hpoint rfl
    rw [hmark] at hc
    exact hc.elim (fun h => by cases h) hpoint
  unfold peel?
  split
  · next heq => exact absurd (List.cons.inj heq).1 (hne '+' (by decide) (by decide))
  · next heq => exact absurd (List.cons.inj heq).1 (hne '-' (by decide) (by decide))
  · next heq => exact absurd (List.cons.inj heq).1 (hne '$' (by decide) (by decide))
  · next heq => exact absurd (List.cons.inj heq).1 (hne '(' (by decide) (by decide))
  · rfl

/-- The sign of a numeral is all that decorates it. -/
theorem undecorate_of_numeral (h : Numeral.parse? (commonDigits cs) = some x) :
    undecorate cs = takeSign cs := by
  obtain ⟨c, rest, hbody, hc⟩ := exists_head_of_numeral h
  have hcore : undecorate (takeSign cs).2 = (false, (takeSign cs).2) := by
    rw [hbody]
    exact undecorate_of_peel?_eq_none (peel?_of_head hc rest)
  have hdrop : (takeSign cs).2.dropWhile Text.isSpace = (takeSign cs).2 := by
    refine Text.dropWhile_of_head fun d hd => ?_
    rw [hbody] at hd
    obtain rfl : c = d := Option.some.inj hd
    rcases hc with hdigit | rfl
    · exact isSpace_of_isDecimalDigit hdigit
    · decide
  unfold takeSign at hcore hdrop ⊢
  split at hcore
  · next rest =>
    have hrest : rest.dropWhile Text.isSpace = rest := hdrop
    have hpeel : peel? ('+' :: rest) = some (false, rest) := by rw [peel?, hrest]
    rw [undecorate_of_peel?_eq_some hpeel, hcore]
    rfl
  · next rest =>
    have hrest : rest.dropWhile Text.isSpace = rest := hdrop
    have hpeel : peel? ('-' :: rest) = some (true, rest) := by rw [peel?, hrest]
    rw [undecorate_of_peel?_eq_some hpeel, hcore]
    rfl
  · exact hcore

/-! ### The decimal of a numeral -/

theorem parseNamed?_of_head {d : Char} (hd : d.isDigit = true ∨ d = '.') (negative : Bool)
    (ds : List Char) : Decimal.parseNamed? negative ((d :: ds).map Char.toLower) = none := by
  have hlower : d.toLower = d := by
    rcases hd with hdigit | rfl
    · exact toLower_of_isDigit hdigit
    · decide
  have hne : d ≠ 'i' ∧ d ≠ 'n' ∧ d ≠ 's' := by
    refine ⟨?_, ?_, ?_⟩ <;> (rintro rfl; revert hd; decide)
  rw [List.map_cons, hlower]
  unfold Decimal.parseNamed?
  split
  · next heq => exact absurd (List.cons.inj heq).1 hne.1
  · next heq => exact absurd (List.cons.inj heq).1 hne.1
  · next heq => exact absurd (List.cons.inj heq).1 hne.2.1
  · next heq => exact absurd (List.cons.inj heq).1 hne.2.2
  · rfl

/-- Under its sign a numeral is the same numeral without a sign. -/
theorem parse?_under_sign (h : Numeral.parse? (commonDigits cs) = some x) :
    takeSign (commonDigits (takeSign cs).2) = (false, commonDigits (takeSign cs).2) ∧
      x.negative = (takeSign cs).1 ∧
      Numeral.parse? (commonDigits (takeSign cs).2) = some { x with negative := false } := by
  have hsign := takeSign_commonDigits cs
  obtain ⟨d, ds, hbody, hd⟩ := Numeral.exists_head_of_parse? h
  rw [hsign] at hbody
  dsimp only at hbody
  have hplain : takeSign (commonDigits (takeSign cs).2) =
      (false, commonDigits (takeSign cs).2) := by
    rw [hbody]
    refine takeSign_cons_of_ne ?_ ?_ <;> (rintro rfl; revert hd; decide)
  rw [Numeral.parse?_of_takeSign hsign hplain] at h
  obtain ⟨y, hy, rfl⟩ := Option.map_eq_some_iff.1 h
  obtain ⟨whole, fraction, rest, power, -, -, -, -, rfl⟩ := Numeral.exists_of_parse? hy
  rw [hplain] at hy
  exact ⟨hplain, rfl, hy⟩

/-- The number under the sign of a numeral is a decimal, unless it is beyond the limits. -/
theorem parseCore?_of_numeral (h : Numeral.parse? (commonDigits cs) = some x) :
    parseCore? (takeSign cs).2 =
      if Decimal.inLimits x then some ({ x with negative := false } : Numeral).toBinary64
      else none := by
  obtain ⟨hplain, -, hparse⟩ := parse?_under_sign h
  obtain ⟨d, ds, hbody, hd⟩ := Numeral.exists_head_of_parse? hparse
  rw [hplain] at hbody
  dsimp only at hbody
  have hchars := isNumeralChar_of_numeral hparse
  generalize (takeSign cs).2 = core at hplain hparse hbody hchars ⊢
  -- no stage before the numeral takes anything from the text
  have hnone : ∀ other, Text.isDecimalDigit other = false →
      other ∉ ['+', '-', '.', 'e', 'E'] → ∀ c ∈ core, c ≠ other := fun other hdigit hmarks c hc =>
    ne_of_isNumeralChar (hchars c hc) hdigit hmarks
  have hcommas : core.filter (· ≠ ',') = core :=
    List.filter_eq_self.2 fun c hc => by simpa using hnone ',' (by decide) (by decide) c hc
  have hmarks : core.filter (· ≠ '_') = core :=
    List.filter_eq_self.2 fun c hc => by simpa using hnone '_' (by decide) (by decide) c hc
  have hmark : core.contains '_' = false := by
    rw [Bool.eq_false_iff]
    intro hmem
    exact hnone '_' (by decide) (by decide) '_' (by simpa using hmem) rfl
  have htrim : Text.trimChars core = core :=
    Text.trimBy_of_trimmed (trimmed_of_isNumeralChar hchars)
  have hnamed : Decimal.parseNamed? false ((commonDigits core).map Char.toLower) = none := by
    rw [hbody]
    exact parseNamed?_of_head hd false ds
  have hdecimal : Decimal.parse? core =
      if Decimal.inLimits x then some (.finite { x with negative := false }) else none := by
    unfold Decimal.parse?
    rw [htrim, hmarks]
    dsimp only
    rw [hplain]
    dsimp only
    rw [hnamed, Decimal.parseFinite?, hparse]
    rfl
  unfold parseCore?
  dsimp only
  rw [hcommas, hmark, hdecimal, if_neg Bool.false_ne_true]
  cases Decimal.inLimits x <;> rfl

/-- **The amount of a numeral.** -/
theorem parse_of_numeral (h : Numeral.parse? (commonDigits cs) = some x) :
    parse (String.ofList cs) =
      if Decimal.inLimits x then .ok x.toBinary64 else .error (.invalid (String.ofList cs)) := by
  have hchars := isNumeralChar_of_numeral h
  have htrim : Text.trimChars cs = cs := Text.trimBy_of_trimmed (trimmed_of_isNumeralChar hchars)
  have hne : cs.isEmpty = false := by
    obtain ⟨c, rest, hbody, -⟩ := exists_head_of_numeral h
    cases cs with
    | nil => cases hbody
    | cons c cs => rfl
  obtain ⟨-, hnegative, -⟩ := parse?_under_sign h
  unfold parse
  rw [String.toList_ofList, htrim]
  dsimp only
  rw [hne, if_neg Bool.false_ne_true, undecorate_of_numeral h,
    parseCore?_of_numeral h, ← hnegative]
  cases Decimal.inLimits x with
  | false => rfl
  | true =>
    rw [x.toBinary64_negative]
    rfl

end Amount

end SpendingLedger

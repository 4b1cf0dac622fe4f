import SpendingLedger.Proofs.Number.Digits

/-!
# The spelling of numerals

A numeral is spelled with digits, two signs, a point and the letter E.  Its digits may come from any
script and are brought to one script before they are read; the other characters stand for
themselves.  So nothing in a numeral is blank, and behind its sign it begins with a digit or the
point.

## Main definitions

* `commonDigit` — the digit of the common script for a digit of any script.
* `IsNumeralChar` — the characters that a numeral is spelled with.

## Main results

* `commonDigit_eq_iff`, `isSpace_of_isDecimalDigit` — marks stand for themselves, and no digit is a
  space.
* `digitsValue_lt` — a number of `n` digits lies below `10 ^ n`.
* `Numeral.isNumeralChar_of_parse?` — **a numeral is spelled with these characters.**
* `Numeral.exists_head_of_parse?` — the first character behind the sign of a numeral.
* `Numeral.length_natDigits_of_parse?` — the digits of a numeral that is not overlong.
-/

namespace SpendingLedger

/-! ### Digits of any script -/

/-- The code points of the digits from 0 to 9. -/
theorem toNat_of_isDigit {c : Char} (h : c.isDigit = true) : 48 ≤ c.toNat ∧ c.toNat ≤ 57 := by
  simp only [Char.isDigit, Bool.and_eq_true, decide_eq_true_eq, UInt32.le_iff_toNat_le] at h
  exact h

/-- A digit stands in one of the intervals, and its value counts from the beginning in tens. -/
theorem exists_range_of_digitIn {n d : Nat} {ranges : List (Nat × Nat)}
    (h : Text.digitIn n ranges = some d) :
    ∃ r ∈ ranges, r.1 ≤ n ∧ n ≤ r.2 ∧ (n - r.1) % 10 = d := by
  induction ranges with
  | nil => cases h
  | cons r rest ih =>
    obtain ⟨lo, hi⟩ := r
    unfold Text.digitIn at h
    split at h
    · cases h
    next hlow =>
    split at h
    · next hhigh =>
      exact ⟨(lo, hi), List.mem_cons_self, Nat.le_of_not_lt hlow, hhigh, Option.some.inj h⟩
    · obtain ⟨r, hr, hn⟩ := ih h
      exact ⟨r, List.mem_cons_of_mem _ hr, hn⟩

theorem digitIn_lt {n d : Nat} {ranges : List (Nat × Nat)} (h : Text.digitIn n ranges = some d) :
    d < 10 := by
  obtain ⟨r, -, -, -, rfl⟩ := exists_range_of_digitIn h
  exact Nat.mod_lt _ (by decide)

/-- The digits from 0 to 9 are those that `Char.isDigit` knows. -/
theorem decimalDigit?_of_isDigit {c : Char} (h : c.isDigit = true) :
    Text.decimalDigit? c = some (c.toNat - 48) := by
  obtain ⟨hlow, hhigh⟩ := toNat_of_isDigit h
  unfold Text.decimalDigit? Text.decimalDigitRanges Text.digitIn
  rw [if_neg (by omega), if_pos (by omega)]
  congr 1
  omega

/-- The digit of the common script for a digit of any script; other characters stay. -/
def commonDigit (c : Char) : Char :=
  match Text.decimalDigit? c with
  | some d => Char.ofNat (48 + d)
  | none => c

theorem commonDigits_eq_map (cs : List Char) : commonDigits cs = cs.map commonDigit := rfl

theorem isDigit_commonDigit (c : Char) : (commonDigit c).isDigit = Text.isDecimalDigit c := by
  have hall : ∀ d < 10, (Char.ofNat (48 + d)).isDigit = true := by decide
  unfold commonDigit Text.isDecimalDigit
  cases hd : Text.decimalDigit? c with
  | some d => exact hall d (digitIn_lt hd)
  | none =>
    refine Bool.eq_false_iff.2 fun hdigit => ?_
    rw [decimalDigit?_of_isDigit hdigit] at hd
    cases hd

/-- A mark stands for itself, and only for itself. -/
theorem commonDigit_eq_iff {c mark : Char} (hdigit : mark.isDigit = false)
    (hmark : Text.decimalDigit? mark = none) : commonDigit c = mark ↔ c = mark := by
  constructor
  · intro h
    have hc : Text.isDecimalDigit c = false := by rw [← isDigit_commonDigit, h, hdigit]
    unfold commonDigit at h
    rwa [Option.not_isSome_iff_eq_none.1 (Bool.eq_false_iff.1 hc)] at h
  · rintro rfl
    unfold commonDigit
    rw [hmark]

/-- A digit that has been brought to the common script is one of that script. -/
theorem isDigit_of_mem_commonDigits {cs : List Char} (h : cs.all Text.isDecimalDigit = true)
    {c : Char} (hc : c ∈ commonDigits cs) : c.isDigit = true := by
  obtain ⟨a, ha, rfl⟩ := List.mem_map.1 hc
  exact (isDigit_commonDigit a).trans (List.all_eq_true.1 h a ha)

/-- A character outside all scripts' digits, and a digit of the common script, stay what they
are. -/
theorem commonDigits_eq_self {cs : List Char}
    (h : ∀ c ∈ cs, c.isDigit = true ∨ Text.decimalDigit? c = none) : commonDigits cs = cs := by
  refine (List.map_congr_left fun c hc => ?_).trans (List.map_id cs)
  rcases h c hc with hdigit | hnone
  · rw [decimalDigit?_of_isDigit hdigit]
    dsimp only
    rw [Nat.add_sub_cancel' (toNat_of_isDigit hdigit).1, Char.ofNat_toNat]
    rfl
  · rw [hnone]
    rfl

/-- No digit is a space. -/
theorem isSpace_of_isDecimalDigit {c : Char} (h : Text.isDecimalDigit c = true) :
    Text.isSpace c = false := by
  -- the blocks of digits leave out four intervals that hold all spaces
  have hgaps : ∀ r ∈ Text.decimalDigitRanges, 0x20 < r.1 ∧ (r.2 < 0x85 ∨ 0xA0 < r.1) ∧
      (r.2 < 0x1680 ∨ 0x1680 < r.1) ∧ (r.2 < 0x2000 ∨ 0x3000 < r.1) := by decide
  obtain ⟨d, hd⟩ := Option.isSome_iff_exists.1 h
  obtain ⟨r, hr, hlow, hhigh, -⟩ := exists_range_of_digitIn hd
  have hgap := hgaps r hr
  unfold Text.isSpace Text.isWhite
  simp only [Bool.or_eq_false_iff, Bool.and_eq_false_iff, decide_eq_false_iff_not]
  omega

/-- A digit has no case. -/
theorem toLower_of_isDigit {c : Char} (h : c.isDigit = true) : c.toLower = c := by
  unfold Char.toLower
  rw [dif_neg]
  rintro ⟨hlow, -⟩
  exact absurd (Nat.le_trans hlow (toNat_of_isDigit h).2) (by decide)

/-! ### Signs -/

theorem mem_of_mem_takeSign {cs : List Char} {c : Char} (h : c ∈ cs) :
    c = '+' ∨ c = '-' ∨ c ∈ (takeSign cs).2 := by
  unfold takeSign
  split
  · rcases List.mem_cons.1 h with rfl | h
    · exact Or.inl rfl
    · exact Or.inr (Or.inr h)
  · rcases List.mem_cons.1 h with rfl | h
    · exact Or.inr (Or.inl rfl)
    · exact Or.inr (Or.inr h)
  · exact Or.inr (Or.inr h)

/-- The sign of a text is taken before or after its digits are brought to one script. -/
theorem takeSign_commonDigits (cs : List Char) :
    takeSign (commonDigits cs) = ((takeSign cs).1, commonDigits (takeSign cs).2) := by
  have hplus : ∀ c, commonDigit c = '+' ↔ c = '+' := fun c =>
    commonDigit_eq_iff (by decide) (by decide)
  have hminus : ∀ c, commonDigit c = '-' ↔ c = '-' := fun c =>
    commonDigit_eq_iff (by decide) (by decide)
  cases cs with
  | nil => rfl
  | cons c cs =>
    rw [commonDigits_eq_map, List.map_cons]
    by_cases hc : c = '+'
    · rw [(hplus c).2 hc, hc]
      rfl
    by_cases hc' : c = '-'
    · rw [(hminus c).2 hc', hc']
      rfl
    rw [takeSign_cons_of_ne hc hc', takeSign_cons_of_ne (mt (hplus c).1 hc) (mt (hminus c).1 hc')]
    rfl

/-! ### The value of digits -/

/-- The first digit counts as many times as the power of ten behind it. -/
theorem digitsValue_cons (c : Char) (cs : List Char) :
    digitsValue (c :: cs) = (c.toNat - 48) * powerOfTen cs.length + digitsValue cs := by
  rw [← List.singleton_append, digitsValue_append]
  simp [digitsValue]

/-- A number of `n` digits lies below the `n`-th power of ten. -/
theorem digitsValue_lt {cs : List Char} (h : ∀ c ∈ cs, c.isDigit = true) :
    digitsValue cs < powerOfTen cs.length := by
  induction cs with
  | nil => exact powerOfTen_pos 0
  | cons c cs ih =>
    have hrest := ih fun d hd => h d (List.mem_cons_of_mem c hd)
    have hfirst : (c.toNat - 48) * powerOfTen cs.length ≤ 9 * powerOfTen cs.length :=
      Nat.mul_le_mul_right _ (Nat.sub_le_of_le_add (toNat_of_isDigit (h c List.mem_cons_self)).2)
    rw [digitsValue_cons, List.length_cons, powerOfTen_succ]
    omega

/-- As many digits of the same value are the same digits. -/
theorem eq_of_digitsValue_eq {as bs : List Char} (has : ∀ c ∈ as, c.isDigit = true)
    (hbs : ∀ c ∈ bs, c.isDigit = true) (hlength : as.length = bs.length)
    (h : digitsValue as = digitsValue bs) : as = bs := by
  induction as generalizing bs with
  | nil => exact (List.length_eq_zero_iff.1 hlength.symm).symm
  | cons a as ih =>
    cases bs with
    | nil => cases hlength
    | cons b bs =>
      obtain ⟨ha, has⟩ := List.forall_mem_cons.1 has
      obtain ⟨hb, hbs⟩ := List.forall_mem_cons.1 hbs
      have htails : as.length = bs.length := Nat.succ.inj hlength
      have hpos := powerOfTen_pos as.length
      have hlow := digitsValue_lt has
      have hlow' := digitsValue_lt hbs
      rw [digitsValue_cons, digitsValue_cons, ← htails] at h
      rw [← htails] at hlow'
      -- the first digit is the quotient by the power of ten
      have hfirst : a.toNat - 48 = b.toNat - 48 := by
        have hquot := congrArg (· / powerOfTen as.length) h
        rwa [Nat.add_comm, Nat.add_mul_div_right _ _ hpos, Nat.div_eq_of_lt hlow, Nat.add_comm _
          (digitsValue bs), Nat.add_mul_div_right _ _ hpos, Nat.div_eq_of_lt hlow', Nat.zero_add,
          Nat.zero_add] at hquot
      have hhead : a = b := by
        have ha' := (toNat_of_isDigit ha).1
        have hb' := (toNat_of_isDigit hb).1
        exact Char.toNat_inj.1 (by omega)
      rw [hfirst, Nat.add_left_cancel_iff] at h
      rw [hhead, ih has hbs htails h]

/-- The digits of a number are as few as any that write it. -/
theorem length_natDigits_digitsValue_le {cs : List Char} (hne : cs ≠ [])
    (h : ∀ c ∈ cs, c.isDigit = true) : (natDigits (digitsValue cs)).length ≤ cs.length :=
  (Nat.length_toDigits_le_iff (by decide) (List.length_pos_iff.2 hne)).2 (digitsValue_lt h)

/-- The zeros at the head of digits add nothing. -/
theorem digitsValue_dropWhile_zeros (cs : List Char) :
    digitsValue (cs.dropWhile (· == '0')) = digitsValue cs := by
  have hzeros : cs.takeWhile (· == '0') = List.replicate (cs.takeWhile (· == '0')).length '0' :=
    List.eq_replicate_of_mem fun c hc => by simpa using List.mem_takeWhile_imp hc
  calc digitsValue (cs.dropWhile (· == '0'))
      = digitsValue (List.replicate (cs.takeWhile (· == '0')).length '0' ++
          cs.dropWhile (· == '0')) := (digitsValue_zeros_append _ _).symm
    _ = digitsValue (cs.takeWhile (· == '0') ++ cs.dropWhile (· == '0')) := by rw [← hzeros]
    _ = digitsValue cs := by rw [List.takeWhile_append_dropWhile]

/-! ### The characters of a numeral -/

/-- Whether a numeral may be spelled with a character. -/
def IsNumeralChar (c : Char) : Prop :=
  Text.isDecimalDigit c = true ∨ c = '+' ∨ c = '-' ∨ c = '.' ∨ c = 'e' ∨ c = 'E'

theorem isSpace_of_isNumeralChar {c : Char} (h : IsNumeralChar c) : Text.isSpace c = false := by
  rcases h with hdigit | rfl | rfl | rfl | rfl | rfl
  · exact isSpace_of_isDecimalDigit hdigit
  all_goals decide

theorem trimmed_of_isNumeralChar {cs : List Char} (h : ∀ c ∈ cs, IsNumeralChar c) :
    Text.Trimmed Text.isSpace cs where
  head := fun c hc => isSpace_of_isNumeralChar (h c (List.mem_of_mem_head? hc))
  last := fun c hc => isSpace_of_isNumeralChar (h c (List.mem_of_getLast? hc))

/-- A character that is no digit is none of a numeral unless it is one of the marks. -/
theorem ne_of_isNumeralChar {c other : Char} (h : IsNumeralChar c)
    (hdigit : Text.isDecimalDigit other = false) (hmarks : other ∉ ['+', '-', '.', 'e', 'E']) :
    c ≠ other := by
  rintro rfl
  rcases h with h | h
  · rw [hdigit] at h
    cases h
  · exact hmarks (by simpa using h)

theorem isNumeralChar_of_isDigit {c : Char} (h : c.isDigit = true) : IsNumeralChar c := by
  refine Or.inl ?_
  unfold Text.isDecimalDigit
  rw [decimalDigit?_of_isDigit h]
  rfl

/-- The digits of a numeral may come from any script. -/
theorem IsNumeralChar.of_commonDigit {c : Char} (h : IsNumeralChar (commonDigit c)) :
    IsNumeralChar c := by
  unfold commonDigit at h
  split at h
  · next d hd => exact Or.inl (Option.isSome_iff_exists.2 ⟨d, hd⟩)
  · exact h

namespace Numeral

theorem isNumeralChar_of_mem_takeSign {cs : List Char} {c : Char} (h : c ∈ cs)
    (hrest : c ∈ (takeSign cs).2 → IsNumeralChar c) : IsNumeralChar c := by
  rcases mem_of_mem_takeSign h with rfl | rfl | h
  · exact Or.inr (by decide)
  · exact Or.inr (by decide)
  · exact hrest h

theorem isNumeralChar_of_parsePower? {cs : List Char} {power : Int}
    (h : parsePower? cs = some power) : ∀ c ∈ cs, IsNumeralChar c := by
  cases cs with
  | nil => exact fun c hc => absurd hc List.not_mem_nil
  | cons e cs =>
    by_cases he : e = 'e' ∨ e = 'E'
    · rw [parsePower?, if_pos he] at h
      obtain ⟨hdigits, -⟩ := Option.ite_none_left_eq_some.1 h
      simp only [Bool.or_eq_true, Bool.not_eq_true', not_or, Bool.not_eq_false,
        List.all_eq_true] at hdigits
      intro c hc
      rcases List.mem_cons.1 hc with rfl | hc
      · exact Or.inr (Or.inr (Or.inr (Or.inr he)))
      · exact isNumeralChar_of_mem_takeSign hc fun hdigit =>
          isNumeralChar_of_isDigit (hdigits.2 c hdigit)
    · rw [parsePower?, if_neg he] at h
      cases h

/-- What stands behind the first digits of a numeral: digits behind a point, and a power of ten. -/
theorem isNumeralChar_of_takeFraction {cs : List Char} {power : Int}
    (h : parsePower? (takeFraction cs).2 = some power) : ∀ c ∈ cs, IsNumeralChar c := by
  unfold takeFraction at h
  split at h
  · next rest =>
    intro c hc
    rcases List.mem_cons.1 hc with rfl | hc
    · exact Or.inr (by decide)
    rw [← List.takeWhile_append_dropWhile (p := Char.isDigit) (l := rest)] at hc
    rcases List.mem_append.1 hc with hc | hc
    · exact isNumeralChar_of_isDigit (List.mem_takeWhile_imp hc)
    · exact isNumeralChar_of_parsePower? h c hc
  · exact isNumeralChar_of_parsePower? h

variable {cs : List Char} {x : Numeral}

/-- What is read of a numeral: the digits before and behind its point, and its power of ten. -/
theorem exists_of_parse? (h : parse? cs = some x) :
    ∃ whole fraction rest power,
      (takeSign cs).2.takeWhile Char.isDigit = whole ∧
      takeFraction ((takeSign cs).2.dropWhile Char.isDigit) = (fraction, rest) ∧
      (whole = [] → fraction ≠ []) ∧ parsePower? rest = some power ∧
      x = ⟨(takeSign cs).1, digitsValue (whole ++ fraction), power - fraction.length⟩ := by
  cases htail : takeFraction ((takeSign cs).2.dropWhile Char.isDigit) with
  | mk fraction rest =>
    unfold parse? at h
    simp only [htail] at h
    obtain ⟨hdigits, h⟩ := Option.ite_none_left_eq_some.1 h
    obtain ⟨power, hpower, rfl⟩ := Option.map_eq_some_iff.1 h
    refine ⟨_, fraction, rest, power, rfl, rfl, fun hwhole hfraction => hdigits ?_, hpower, rfl⟩
    rw [hwhole, hfraction]
    rfl

/-- **A numeral is spelled with digits, signs, a point and the letter E.** -/
theorem isNumeralChar_of_parse? (h : parse? cs = some x) : ∀ c ∈ cs, IsNumeralChar c := by
  obtain ⟨whole, fraction, rest, power, -, hfraction, -, hpower, -⟩ := exists_of_parse? h
  intro c hc
  refine isNumeralChar_of_mem_takeSign hc fun hbody => ?_
  rw [← List.takeWhile_append_dropWhile (p := Char.isDigit) (l := (takeSign cs).2)] at hbody
  rcases List.mem_append.1 hbody with hwhole | htail
  · exact isNumeralChar_of_isDigit (List.mem_takeWhile_imp hwhole)
  · exact isNumeralChar_of_takeFraction (by rw [hfraction]; exact hpower) c htail

/-- Behind its sign a numeral begins with a digit or the point. -/
theorem exists_head_of_parse? (h : parse? cs = some x) :
    ∃ c rest, (takeSign cs).2 = c :: rest ∧ (c.isDigit = true ∨ c = '.') := by
  obtain ⟨whole, fraction, rest, power, hwhole, hfraction, hdigits, -, -⟩ := exists_of_parse? h
  cases hbody : (takeSign cs).2 with
  | nil =>
    rw [hbody] at hwhole hfraction
    cases hwhole
    cases hfraction
    exact absurd rfl (hdigits rfl)
  | cons c body =>
    refine ⟨c, body, rfl, ?_⟩
    by_contra hother
    obtain ⟨hdigit, hpoint⟩ := not_or.1 hother
    rw [hbody, List.takeWhile_cons_of_neg hdigit] at hwhole
    rw [hbody, List.dropWhile_cons_of_neg hdigit] at hfraction
    unfold takeFraction at hfraction
    split at hfraction
    · next heq => exact hpoint (List.cons.inj heq).1
    · cases hfraction
      exact hdigits hwhole.symm rfl

/-- The sign of a numeral may be left out of its text. -/
theorem parse?_of_takeSign {negative : Bool} {body : List Char}
    (hsign : takeSign cs = (negative, body)) (hbody : takeSign body = (false, body)) :
    parse? cs = (parse? body).map fun x => { x with negative } := by
  unfold parse?
  rw [hsign, hbody]
  dsimp only
  split
  · rfl
  · rw [Option.map_map]
    rfl

theorem isDigit_of_mem_takeFraction {cs : List Char} {c : Char} (h : c ∈ (takeFraction cs).1) :
    c.isDigit = true := by
  unfold takeFraction at h
  split at h
  · exact List.mem_takeWhile_imp h
  · exact absurd h List.not_mem_nil

/-- A numeral that is not overlong has no more digits than are read. -/
theorem length_natDigits_of_parse? (h : parse? cs = some x) (hshort : isOverlong cs = false)
    (hne : x.coefficient ≠ 0) : (natDigits x.coefficient).length ≤ digitLimit := by
  obtain ⟨whole, fraction, rest, power, hwhole, hfraction, -, -, rfl⟩ := exists_of_parse? h
  unfold isOverlong at hshort
  simp only [hwhole, hfraction, Bool.or_eq_false_iff, decide_eq_false_iff_not, not_lt] at hshort
  have hdigits : ∀ c ∈ (whole ++ fraction).dropWhile (· == '0'), c.isDigit = true := by
    intro c hc
    rcases List.mem_append.1 ((List.dropWhile_suffix _).subset hc) with hc | hc
    · exact List.mem_takeWhile_imp (hwhole ▸ hc)
    · exact isDigit_of_mem_takeFraction (by rw [hfraction]; exact hc)
  have hnil : (whole ++ fraction).dropWhile (· == '0') ≠ [] := by
    intro hnil
    refine hne ?_
    rw [← digitsValue_dropWhile_zeros, hnil]
    rfl
  dsimp only
  rw [← digitsValue_dropWhile_zeros]
  exact (length_natDigits_digitsValue_le hnil hdigits).trans hshort.2

end Numeral

end SpendingLedger

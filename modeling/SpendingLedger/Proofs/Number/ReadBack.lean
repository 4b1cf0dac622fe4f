import SpendingLedger.Number.Integer
import SpendingLedger.Proofs.Json.Number
import SpendingLedger.Proofs.Number.Spelling

/-!
# Numbers read back from their text

The characters in the text of a number stay what they are when its digits are brought to one script.
None of them is blank or an underscore, and the text does not name an infinity.  What is left to
read is a numeral, with few digits, and a finite number is read back from its text.

## Main definitions

* `IsNumberChar` — the characters in the text of a finite number.

## Main results

* `Binary64.length_textChars_le` — the text of a finite number is short.
* `Binary64.parse?_text` — **a finite number is read back from its text.**
-/

namespace SpendingLedger

open Json (NumberParts)

/-! ### The characters of a number -/

/-- Whether a character stands in the text of a finite number. -/
def IsNumberChar (c : Char) : Prop :=
  c.isDigit = true ∨ c = '-' ∨ c = '+' ∨ c = '.' ∨ c = 'e'

theorem decimalDigit?_of_isNumberChar {c : Char} (h : IsNumberChar c) :
    c.isDigit = true ∨ Text.decimalDigit? c = none := by
  refine h.imp_right fun hmark => ?_
  rcases hmark with rfl | rfl | rfl | rfl
  all_goals decide

theorem IsNumberChar.isNumeralChar {c : Char} (h : IsNumberChar c) : IsNumeralChar c := by
  rcases h with hdigit | rfl | rfl | rfl | rfl
  · exact isNumeralChar_of_isDigit hdigit
  all_goals exact Or.inr (by decide)

theorem isSpace_of_isNumberChar {c : Char} (h : IsNumberChar c) : Text.isSpace c = false :=
  isSpace_of_isNumeralChar h.isNumeralChar

/-- No space stands at the ends of the text of a number. -/
theorem trimmed_of_isNumberChar {cs : List Char} (h : ∀ c ∈ cs, IsNumberChar c) :
    Text.Trimmed Text.isSpace cs :=
  trimmed_of_isNumeralChar fun c hc => (h c hc).isNumeralChar

theorem isSpace_of_isPadding {c : Char} (h : Binary64.isPadding c = true) :
    Text.isSpace c = true := by
  unfold Binary64.isPadding at h
  simp only [Bool.or_eq_true, Bool.and_eq_true, decide_eq_true_eq] at h
  rcases h with (hblank | hcontrol) | hbeyond
  · simp [Text.isSpace, Text.isWhite, hblank]
  · simp [Text.isSpace, Text.isWhite, hcontrol]
  · exact hbeyond.2

theorem ne_underscore_of_isNumberChar {c : Char} (h : IsNumberChar c) : c ≠ '_' := by
  rintro rfl
  revert h
  unfold IsNumberChar
  decide

/-- The sign that was put before digits is taken from them. -/
theorem takeSign_withSign_cons {d : Char} {ds : List Char} (hd : d.isDigit = true)
    (negative : Bool) : takeSign (Binary64.withSign negative (d :: ds)) = (negative, d :: ds) := by
  obtain ⟨hminus, hplus, -⟩ := Json.ne_of_isDigit hd
  cases negative with
  | false => exact takeSign_cons_of_ne hplus hminus
  | true => rfl

namespace Json.NumberParts

variable {p : NumberParts}

theorem isNumberChar_of_mem_chars (h : p.WellFormed) {c : Char} (hc : c ∈ p.chars) :
    IsNumberChar c := by
  unfold chars fractionChars powerChars at hc
  rcases List.mem_append.1 hc with hc | hc
  · exact Or.inl (h.whole_digits c hc)
  rcases List.mem_append.1 hc with hc | hc
  · split at hc
    · exact absurd hc List.not_mem_nil
    · rcases List.mem_cons.1 hc with rfl | hc
      · exact Or.inr (by decide)
      · exact Or.inl (h.fraction_digits c hc)
  · split at hc
    · exact absurd hc List.not_mem_nil
    next negative digits hpower =>
      rcases List.mem_cons.1 hc with rfl | hc
      · exact Or.inr (by decide)
      rcases List.mem_cons.1 hc with rfl | hc
      · cases negative
        · exact Or.inr (by decide)
        · exact Or.inr (by decide)
      · exact Or.inl ((h.power_digits negative digits hpower).2 c hc)

theorem isNumberChar_of_mem_withSign (h : p.WellFormed) {negative : Bool} {c : Char}
    (hc : c ∈ Binary64.withSign negative p.chars) : IsNumberChar c := by
  cases negative with
  | false => exact isNumberChar_of_mem_chars h hc
  | true =>
    rcases List.mem_cons.1 hc with rfl | hc
    · exact Or.inr (by decide)
    · exact isNumberChar_of_mem_chars h hc

/-- A number with a fraction has a point, and one with a power of ten has the letter for it. -/
theorem mark_mem_withSign (h : p.fraction ≠ [] ∨ p.power ≠ none) (negative : Bool) :
    '.' ∈ Binary64.withSign negative p.chars ∨ 'e' ∈ Binary64.withSign negative p.chars := by
  have hsign : ∀ c ∈ p.chars, c ∈ Binary64.withSign negative p.chars := by
    intro c hc
    cases negative with
    | false => exact hc
    | true => exact List.mem_cons_of_mem _ hc
  unfold chars at hsign
  rcases h with hfraction | hpower
  · refine Or.inl (hsign '.' (List.mem_append_right _ (List.mem_append_left _ ?_)))
    unfold fractionChars
    rw [if_neg (by simpa using hfraction)]
    exact List.mem_cons_self
  · refine Or.inr (hsign 'e' (List.mem_append_right _ (List.mem_append_right _ ?_)))
    unfold powerChars
    cases hp : p.power with
    | none => exact absurd hp hpower
    | some power => exact List.mem_cons_self

/-- The sign that was put before the text of a number is taken from it. -/
theorem takeSign_withSign (h : p.WellFormed) (negative : Bool) :
    takeSign (Binary64.withSign negative p.chars) = (negative, p.chars) := by
  obtain ⟨d, ds, hchars, hd⟩ := exists_chars_eq_cons h
  rw [hchars]
  exact takeSign_withSign_cons hd negative

/-- The text of a number under a sign is read as its numeral. -/
theorem parse?_withSign (h : p.WellFormed) (negative : Bool) :
    Numeral.parse? (Binary64.withSign negative p.chars) = some (p.numeral negative) := by
  have hplain := parse?_chars h
  unfold Numeral.parse? at hplain ⊢
  rw [takeSign_chars h] at hplain
  rw [takeSign_withSign h]
  dsimp only at hplain ⊢
  split at hplain
  · cases hplain
  next hdigits =>
    rw [if_neg hdigits]
    obtain ⟨power, hpower, hnumeral⟩ := Option.map_eq_some_iff.1 hplain
    rw [hpower, Option.map_some]
    unfold numeral at hnumeral ⊢
    injection hnumeral with _ hcoefficient hexponent
    rw [hcoefficient, hexponent]

/-- The text of a number is as long as its digits, at least. -/
theorem length_digits_le (p : NumberParts) (negative : Bool) :
    p.whole.length + p.fraction.length ≤ (Binary64.withSign negative p.chars).length := by
  have hfraction : p.fraction.length ≤ p.fractionChars.length := by
    unfold fractionChars
    split
    · next hnil => rw [List.isEmpty_iff.1 hnil]
    · exact Nat.le_succ _
  have hchars : p.whole.length + p.fraction.length ≤ p.chars.length := by
    rw [chars, List.length_append, List.length_append]
    omega
  cases negative with
  | false => exact hchars
  | true => exact Nat.le_succ_of_le hchars

/-- The text of a number with few digits is not too long for a binary64 number. -/
theorem isOverlong_withSign (h : p.WellFormed) (negative : Bool)
    (hsize : p.whole.length + p.fraction.length ≤ Numeral.digitLimit) :
    Numeral.isOverlong (Binary64.withSign negative p.chars) = false := by
  have hdrop := Text.length_dropWhile_le (· == '0') (p.whole ++ p.fraction)
  rw [List.length_append] at hdrop
  unfold Numeral.isOverlong
  simp only [takeSign_withSign h, takeWhile_chars h, dropWhile_chars h, takeFraction_tail h,
    Bool.or_eq_false_iff, decide_eq_false_iff_not]
  omega

end Json.NumberParts

namespace Binary64

theorem dropGroupMarks_of_not_mem {cs : List Char} (h : '_' ∉ cs) (afterDigit : Bool) :
    dropGroupMarks afterDigit cs = some cs := by
  induction cs generalizing afterDigit with
  | nil => rfl
  | cons c cs ih =>
    have hc : c ≠ '_' := fun heq => h (heq ▸ List.mem_cons_self)
    have hrest := ih (fun hmem => h (List.mem_cons_of_mem c hmem)) c.isDigit
    unfold dropGroupMarks
    split
    · next heq => cases heq
    · next heq => exact absurd (List.cons.inj heq).1 hc
    · next heq =>
      cases heq
      rw [if_neg hc, hrest]
      rfl

/-- A text that begins with a digit names neither an infinity nor the absence of a number. -/
theorem parseNamed?_withSign {p : NumberParts} (h : p.WellFormed) (negative : Bool) :
    parseNamed? (withSign negative p.chars) = none := by
  obtain ⟨d, ds, hchars, hd⟩ := NumberParts.exists_chars_eq_cons h
  have hlower : d.toLower ≠ 'i' ∧ d.toLower ≠ 'n' := by
    rw [toLower_of_isDigit hd]
    constructor <;> (rintro rfl; revert hd; decide)
  unfold parseNamed?
  rw [NumberParts.takeSign_withSign h, hchars]
  simp [hlower]

/-- The text of a number under a sign is read as the number nearest to its numeral. -/
theorem parse?_withSign {p : NumberParts} (h : p.WellFormed) (negative : Bool)
    (hsize : p.whole.length + p.fraction.length ≤ Numeral.digitLimit) :
    parse? (String.ofList (withSign negative p.chars)) = some (p.numeral negative).toBinary64 := by
  have hchar : ∀ c ∈ withSign negative p.chars, IsNumberChar c :=
    fun c hc => NumberParts.isNumberChar_of_mem_withSign h hc
  have htrim : Text.trimBy isPadding (withSign negative p.chars) = withSign negative p.chars :=
    Text.trimBy_of_trimmed
      ((trimmed_of_isNumberChar hchar).mono fun _ => isSpace_of_isPadding)
  have hcommon : commonDigits (withSign negative p.chars) = withSign negative p.chars :=
    commonDigits_eq_self fun c hc => decimalDigit?_of_isNumberChar (hchar c hc)
  have hmarks : '_' ∉ withSign negative p.chars :=
    fun hmem => ne_underscore_of_isNumberChar (hchar _ hmem) rfl
  -- no stage of the reader before the numeral changes the text
  unfold parse?
  rw [String.toList_ofList, htrim, hcommon, dropGroupMarks_of_not_mem hmarks]
  show (parseNamed? _ <|> _) = _
  rw [parseNamed?_withSign h, NumberParts.isOverlong_withSign h negative hsize,
    NumberParts.parse?_withSign h]
  rfl

/-! ### The text of a finite number -/

theorem length_positional_le (digits : List Char) (point : Int) :
    (positional digits point).length ≤ digits.length + point.natAbs + 3 := by
  unfold positional
  dsimp only
  split
  · simp
    omega
  · split
    · simp
      omega
    · simp
      omega

theorem length_scientific_le (width : Nat) (digits : List Char) (power : Int) :
    (scientific width digits power).length ≤ digits.length + width + power.natAbs + 5 := by
  have hpower : (natDigits power.natAbs).length ≤ power.natAbs + 1 :=
    (Nat.length_toDigits_le_iff (by decide) (Nat.succ_pos _)).2
      (Nat.lt_trans (Nat.lt_succ_self _) (Nat.lt_pow_self (by decide)))
  unfold scientific Text.padLeft
  cases digits with
  | nil => simp; omega
  | cons d ds => cases ds <;> (simp; omega)

/-- The text of a finite number is short. -/
theorem length_textChars_le {x : Binary64} (h : x.isFinite = true) :
    x.textChars.length ≤ 10000 := by
  cases x with
  | nan => cases h
  | infinite s => cases h
  | finite negative units hunits =>
    have hsign : ∀ cs : List Char, (withSign negative cs).length ≤ cs.length + 1 := by
      intro cs
      cases negative <;> simp [withSign]
    refine Nat.le_trans (hsign _) ?_
    obtain ⟨hsize, hlow, hhigh⟩ := shortest_bounds hunits
    unfold magnitudeText
    split
    · simp
    · generalize shortest units = decimal at hsize hlow hhigh
      obtain ⟨coefficient, exponent⟩ := decimal
      dsimp only at hsize hlow hhigh ⊢
      have htrim := Text.length_trimRightBy_le (· == '0') (natDigits coefficient)
      generalize Text.trimRightBy (· == '0') (natDigits coefficient) = digits at htrim
      split
      · have hlength := length_positional_le digits ((natDigits coefficient).length + exponent)
        omega
      · have hlength := length_scientific_le style.exponentDigits digits
          ((natDigits coefficient).length + exponent - 1)
        have hwidth : style.exponentDigits = 2 := rfl
        omega

/-- The text of a finite number consists of the parts of a numeral that is nearest to it. -/
theorem exists_parts_of_isFinite {x : Binary64} (h : x.isFinite = true) :
    ∃ (negative : Bool) (p : NumberParts), p.WellFormed ∧ (p.fraction ≠ [] ∨ p.power ≠ none) ∧
      x.textChars = withSign negative p.chars ∧ (p.numeral negative).toBinary64 = x := by
  cases x with
  | nan => cases h
  | infinite s => cases h
  | finite negative units hunits =>
    show ∃ (negative' : Bool) (p : NumberParts), p.WellFormed ∧ _ ∧
      withSign negative (magnitudeText style units) = _ ∧ _
    by_cases hzero : units = 0
    · subst hzero
      obtain ⟨p, hp, hpart, hchars, hvalue⟩ := Json.writes_zero
      refine ⟨negative, p, hp, hpart, ?_, ?_⟩
      · rw [magnitudeText, if_pos rfl, hchars]
      · rw [hvalue, Numeral.toBinary64_zero, ofUnits_of_representable hunits]
    · obtain ⟨p, hp, hpart, hchars, hvalue⟩ := Json.writes_magnitudeText hunits hzero style
      refine ⟨negative, p, hp, hpart, by rw [hchars], ?_⟩
      rw [hvalue, toBinary64_shortest hunits]

/-- **A finite number is read back from its text.** -/
theorem parse?_text {x : Binary64} (h : x.isFinite = true) : parse? x.text = some x := by
  obtain ⟨negative, p, hp, -, hchars, hvalue⟩ := exists_parts_of_isFinite h
  have hsize : p.whole.length + p.fraction.length ≤ Numeral.digitLimit := by
    have hshort := length_textChars_le h
    rw [hchars] at hshort
    have hlimit : 10000 ≤ Numeral.digitLimit := by decide
    exact (NumberParts.length_digits_le p negative).trans (hshort.trans hlimit)
  rw [text, hchars, parse?_withSign hp negative hsize, hvalue]

example : parse? "5e-324" = some (ofUnits false 1) ∧ (ofUnits false 1).text = "5e-324" := by
  decide +kernel

end Binary64

end SpendingLedger

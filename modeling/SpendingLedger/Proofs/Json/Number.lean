import SpendingLedger.Json.Reader
import SpendingLedger.Json.Writer
import SpendingLedger.Proofs.Number.Digits

/-!
# Numbers in JSON

The text of a number is a whole part, a fraction and a power of ten, each of them digits.  Whatever
the layout, such a text is read as the numeral of its digits, up to the first character that cannot
stand in a number.  The layouts of a binary64 number differ only in where they put its power of ten,
so each of them is read as that number.

## Main definitions

* `NumberParts` — the parts of the text of a number, with `NumberParts.chars` and
  `NumberParts.numeral`.
* `NumberParts.WellFormed` — the parts that JSON allows.
* `EndsNumber` — the texts that do not continue a number.

## Main results

* `NumberParts.number_chars` — **the text of a numeral is read as that numeral.**
* `number_finite` — **a finite number is read as it was written.**
* `number_integer` — an integer is read as it was written.
-/

namespace SpendingLedger.Json

/-! ### The end of a number -/

/-- Whether a text does not continue a number that stands before it. -/
def EndsNumber (rest : List Char) : Prop :=
  ∀ c, rest.head? = some c → c.isDigit = false ∧ c ≠ '.' ∧ c ≠ 'e' ∧ c ≠ 'E'

theorem endsNumber_nil : EndsNumber [] := by
  intro c h
  cases h

theorem endsNumber_cons {c : Char} {rest : List Char} (hdigit : c.isDigit = false)
    (hother : c ≠ '.' ∧ c ≠ 'e' ∧ c ≠ 'E') : EndsNumber (c :: rest) := by
  intro d h
  obtain rfl : c = d := Option.some.inj h
  exact ⟨hdigit, hother⟩

/-- Whether a text does not begin with a digit. -/
def NoDigit (rest : List Char) : Prop := ∀ c, rest.head? = some c → c.isDigit = false

theorem EndsNumber.noDigit {rest : List Char} (h : EndsNumber rest) : NoDigit rest :=
  fun c hc => (h c hc).1

theorem noDigit_cons {c : Char} {rest : List Char} (h : c.isDigit = false) :
    NoDigit (c :: rest) := by
  intro d hd
  obtain rfl : c = d := Option.some.inj hd
  exact h

theorem takeWhile_noDigit {rest : List Char} (h : NoDigit rest) :
    rest.takeWhile Char.isDigit = [] := by
  cases rest with
  | nil => rfl
  | cons c rest => rw [List.takeWhile_cons_of_neg (by simpa using h c rfl)]

theorem dropWhile_noDigit {rest : List Char} (h : NoDigit rest) :
    rest.dropWhile Char.isDigit = rest := by
  cases rest with
  | nil => rfl
  | cons c rest => rw [List.dropWhile_cons_of_neg (by simpa using h c rfl)]

/-- The digits before a text that begins with none are taken. -/
theorem takeWhile_digits {digits rest : List Char} (hdigits : ∀ c ∈ digits, c.isDigit = true)
    (hrest : NoDigit rest) : (digits ++ rest).takeWhile Char.isDigit = digits := by
  rw [List.takeWhile_append_of_pos hdigits, takeWhile_noDigit hrest, List.append_nil]

/-- What follows the digits is left. -/
theorem dropWhile_digits {digits rest : List Char} (hdigits : ∀ c ∈ digits, c.isDigit = true)
    (hrest : NoDigit rest) : (digits ++ rest).dropWhile Char.isDigit = rest := by
  rw [List.dropWhile_append_of_pos hdigits, dropWhile_noDigit hrest]

theorem ne_of_isDigit {c : Char} (h : c.isDigit = true) :
    c ≠ '-' ∧ c ≠ '+' ∧ c ≠ '.' ∧ c ≠ 'e' ∧ c ≠ 'E' := by
  refine ⟨?_, ?_, ?_, ?_, ?_⟩ <;> (rintro rfl; revert h; decide)

/-! ### The parts of a number -/

/-- The digits of a number: those before the point, those behind it, and the power of ten with its
sign. -/
structure NumberParts where
  whole : List Char
  fraction : List Char
  power : Option (Bool × List Char)

namespace NumberParts

/-- The text of a fraction, nothing if it has no digits. -/
def fractionChars (p : NumberParts) : List Char :=
  if p.fraction.isEmpty then [] else '.' :: p.fraction

/-- The text of a power of ten, nothing if there is none. -/
def powerChars (p : NumberParts) : List Char :=
  match p.power with
  | none => []
  | some (negative, digits) => 'e' :: (if negative then '-' else '+') :: digits

/-- The text of a number without its sign. -/
def chars (p : NumberParts) : List Char := p.whole ++ (p.fractionChars ++ p.powerChars)

/-- The power of ten. -/
def exponent (p : NumberParts) : Int :=
  match p.power with
  | none => 0
  | some (negative, digits) => if negative then -(digitsValue digits : Int) else digitsValue digits

/-- The numeral that the parts write under a sign. -/
def numeral (p : NumberParts) (negative : Bool) : Numeral :=
  ⟨negative, digitsValue (p.whole ++ p.fraction), p.exponent - p.fraction.length⟩

/-- Whether all parts are digits, those before the point are a single zero or do not begin with
one, and a power of ten has digits. -/
structure WellFormed (p : NumberParts) : Prop where
  whole_ne_nil : p.whole ≠ []
  whole_digits : ∀ c ∈ p.whole, c.isDigit = true
  whole_head : p.whole = ['0'] ∨ p.whole.head? ≠ some '0'
  fraction_digits : ∀ c ∈ p.fraction, c.isDigit = true
  power_digits : ∀ negative digits, p.power = some (negative, digits) →
    digits ≠ [] ∧ ∀ c ∈ digits, c.isDigit = true

variable {p : NumberParts}

theorem noDigit_powerChars {rest : List Char} (hrest : NoDigit rest) :
    NoDigit (p.powerChars ++ rest) := by
  unfold powerChars
  split
  · exact hrest
  · exact noDigit_cons (by decide)

theorem noDigit_fractionChars {rest : List Char} (hrest : NoDigit rest) :
    NoDigit (p.fractionChars ++ rest) := by
  unfold fractionChars
  split
  · exact hrest
  · exact noDigit_cons (by decide)

/-! ### Reading by parts -/

theorem takeWhole_append (h : p.WellFormed) {rest : List Char} (hrest : NoDigit rest) :
    takeWhole (p.whole ++ rest) = (p.whole, rest) := by
  rcases h.whole_head with hzero | hhead
  · rw [hzero]
    rfl
  · have htake := takeWhile_digits h.whole_digits hrest
    have hdrop := dropWhile_digits h.whole_digits hrest
    cases hw : p.whole with
    | nil => exact absurd hw h.whole_ne_nil
    | cons d ds =>
      have hd : d ≠ '0' := by
        intro hd
        exact hhead (by rw [hw, hd]; rfl)
      rw [hw, List.cons_append] at htake hdrop
      rw [List.cons_append]
      unfold takeWhole
      split
      · next heq => exact absurd (List.cons.inj heq).1 hd
      · rw [htake, hdrop]

theorem takeFraction_append (h : p.WellFormed) {rest : List Char} (hrest : NoDigit rest)
    (hpoint : rest.head? ≠ some '.') :
    takeFraction (p.fractionChars ++ rest) = (p.fractionChars, rest) := by
  unfold fractionChars
  cases hf : p.fraction with
  | nil =>
    show takeFraction rest = ([], rest)
    unfold takeFraction
    split
    · exact absurd rfl hpoint
    · rfl
  | cons d ds =>
    have hd : d.isDigit = true := h.fraction_digits d (by rw [hf]; exact List.mem_cons_self)
    have hds : ∀ c ∈ ds, c.isDigit = true :=
      fun c hc => h.fraction_digits c (by rw [hf]; exact List.mem_cons_of_mem d hc)
    simp only [List.isEmpty_cons, Bool.false_eq_true, if_false, List.cons_append, takeFraction, hd,
      if_true, takeWhile_digits hds hrest, dropWhile_digits hds hrest]

theorem takeExponent_append (h : p.WellFormed) {rest : List Char} (hrest : EndsNumber rest) :
    takeExponent (p.powerChars ++ rest) = (p.powerChars, rest) := by
  unfold powerChars
  cases hp : p.power with
  | none =>
    rw [List.nil_append]
    cases rest with
    | nil => rfl
    | cons c rest =>
      obtain ⟨-, -, he, hE⟩ := hrest c rfl
      simp only [takeExponent, he, hE, or_self, if_false]
  | some sd =>
    obtain ⟨negative, digits⟩ := sd
    obtain ⟨hne, hdigits⟩ := h.power_digits negative digits hp
    have htake := takeWhile_digits hdigits hrest.noDigit
    have hdrop := dropWhile_digits hdigits hrest.noDigit
    cases negative <;> simp [takeExponent, htake, hdrop, hne]

/-- The head of the text of a number is a digit. -/
theorem exists_chars_eq_cons (h : p.WellFormed) :
    ∃ d ds, p.chars = d :: ds ∧ d.isDigit = true := by
  unfold chars
  cases hw : p.whole with
  | nil => exact absurd hw h.whole_ne_nil
  | cons d ds => exact ⟨d, _, rfl, h.whole_digits d (by rw [hw]; exact List.mem_cons_self)⟩

theorem takeSign_chars (h : p.WellFormed) : takeSign p.chars = (false, p.chars) := by
  obtain ⟨d, ds, hchars, hd⟩ := exists_chars_eq_cons h
  obtain ⟨hminus, hplus, -⟩ := ne_of_isDigit hd
  rw [hchars]
  exact takeSign_cons_of_ne hplus hminus

theorem parsePower?_powerChars (h : p.WellFormed) :
    Numeral.parsePower? p.powerChars = some p.exponent := by
  unfold powerChars exponent
  cases hp : p.power with
  | none => rfl
  | some sd =>
    obtain ⟨negative, digits⟩ := sd
    obtain ⟨hne, hdigits⟩ := h.power_digits negative digits hp
    have hall : digits.all Char.isDigit = true := List.all_eq_true.2 hdigits
    cases negative <;> simp [Numeral.parsePower?, takeSign, hne, hall]

theorem noDigit_power (p : NumberParts) : NoDigit p.powerChars := by
  have happend : NoDigit (p.powerChars ++ []) := noDigit_powerChars endsNumber_nil.noDigit
  rwa [List.append_nil] at happend

theorem takeWhile_chars (h : p.WellFormed) : p.chars.takeWhile Char.isDigit = p.whole :=
  takeWhile_digits h.whole_digits (noDigit_fractionChars p.noDigit_power)

theorem dropWhile_chars (h : p.WellFormed) :
    p.chars.dropWhile Char.isDigit = p.fractionChars ++ p.powerChars :=
  dropWhile_digits h.whole_digits (noDigit_fractionChars p.noDigit_power)

theorem takeFraction_tail (h : p.WellFormed) :
    Numeral.takeFraction (p.fractionChars ++ p.powerChars) = (p.fraction, p.powerChars) := by
  unfold fractionChars
  cases hf : p.fraction with
  | nil =>
    show Numeral.takeFraction p.powerChars = ([], p.powerChars)
    unfold powerChars
    split <;> rfl
  | cons d ds =>
    have hds : ∀ c ∈ d :: ds, c.isDigit = true := by
      rw [← hf]
      exact h.fraction_digits
    show ((d :: ds ++ p.powerChars).takeWhile Char.isDigit,
      (d :: ds ++ p.powerChars).dropWhile Char.isDigit) = _
    rw [takeWhile_digits hds p.noDigit_power, dropWhile_digits hds p.noDigit_power]

/-- The parts of a number are read as their numeral. -/
theorem parse?_chars (h : p.WellFormed) : Numeral.parse? p.chars = some (p.numeral false) := by
  unfold Numeral.parse?
  simp only [takeSign_chars h, takeWhile_chars h, dropWhile_chars h, takeFraction_tail h,
    parsePower?_powerChars h]
  simp [numeral, h.whole_ne_nil]

end NumberParts

/-! ### Reading behind a sign -/

/-- The number whose digits are at the head of `body`, behind a sign at the head of `cs`. -/
def numberBehind (negative : Bool) (cs body : List Char) : Parsed Value :=
  let (whole, rest) := takeWhole body
  if whole.isEmpty then failAt .expectingValue cs
  else
    let (fraction, rest) := takeFraction rest
    let (power, rest) := takeExponent rest
    if fraction.isEmpty && power.isEmpty then
      match Integer.ofDigits negative whole with
      | .ok n => .ok (.int n, rest)
      | .error e => .error (.integerTooLong e)
    else match Numeral.parse? (whole ++ fraction ++ power) with
      | some x => .ok (.float { x with negative }.toBinary64, rest)
      | none => failAt .expectingValue cs

theorem number_withSign {d : Char} {ds : List Char} (h : d ≠ '-') (negative : Bool) :
    number (Binary64.withSign negative (d :: ds)) =
      numberBehind negative (Binary64.withSign negative (d :: ds)) (d :: ds) := by
  cases negative with
  | true => rfl
  | false =>
    show number (d :: ds) = numberBehind false (d :: ds) (d :: ds)
    unfold number
    split
    next heq =>
      split at heq
      · next hcons => exact absurd (List.cons.inj hcons).1 h
      · cases heq
        rfl

namespace NumberParts

variable {p : NumberParts}

/-- The parts of a number are told apart; without a fraction and a power of ten they are an
integer. -/
theorem number_chars_eq (h : p.WellFormed) {rest : List Char} (hrest : EndsNumber rest)
    (negative : Bool) :
    number (Binary64.withSign negative p.chars ++ rest) =
      if p.fraction = [] ∧ p.power = none then
        match Integer.ofDigits negative p.whole with
        | .ok n => .ok (.int n, rest)
        | .error e => .error (.integerTooLong e)
      else .ok (.float (p.numeral negative).toBinary64, rest) := by
  obtain ⟨d, ds, hchars, hd⟩ := exists_chars_eq_cons h
  have hsign : Binary64.withSign negative p.chars ++ rest =
      Binary64.withSign negative (d :: (ds ++ rest)) := by
    rw [hchars]
    cases negative <;> rfl
  have hpower : NoDigit (p.powerChars ++ rest) := noDigit_powerChars hrest.noDigit
  have hpoint : (p.powerChars ++ rest).head? ≠ some '.' := by
    unfold powerChars
    split
    · exact fun hhead => (hrest '.' hhead).2.1 rfl
    · intro hhead
      cases hhead
  have hwhole : takeWhole (d :: (ds ++ rest)) =
      (p.whole, p.fractionChars ++ (p.powerChars ++ rest)) := by
    rw [← List.cons_append, ← hchars, chars, List.append_assoc, List.append_assoc]
    exact takeWhole_append h (noDigit_fractionChars hpower)
  have hempty : (p.fractionChars.isEmpty && p.powerChars.isEmpty) = true ↔
      p.fraction = [] ∧ p.power = none := by
    unfold fractionChars powerChars
    cases p.fraction <;> cases p.power <;> simp
  have hparse : Numeral.parse? (p.whole ++ p.fractionChars ++ p.powerChars) =
      some (p.numeral false) := by
    rw [List.append_assoc]
    exact parse?_chars h
  rw [hsign, number_withSign (ne_of_isDigit hd).1]
  unfold numberBehind
  simp only [hwhole, takeFraction_append h hpower hpoint, takeExponent_append h hrest, hparse,
    hempty, List.isEmpty_iff, h.whole_ne_nil, if_false]
  rfl

/-- The text of a numeral with a fraction or a power of ten is read as that numeral. -/
theorem number_chars (h : p.WellFormed) (hpart : p.fraction ≠ [] ∨ p.power ≠ none)
    {rest : List Char} (hrest : EndsNumber rest) (negative : Bool) :
    number (Binary64.withSign negative p.chars ++ rest) =
      .ok (.float (p.numeral negative).toBinary64, rest) := by
  rw [number_chars_eq h hrest, if_neg]
  rintro ⟨hfraction, hpower⟩
  rcases hpart with hpart | hpart
  · exact hpart hfraction
  · exact hpart hpower

end NumberParts

/-- An integer is read as it was written. -/
theorem number_integer (n : Int) (hsize : (natDigits n.natAbs).length ≤ Integer.digitLimit)
    {rest : List Char} (hrest : EndsNumber rest) :
    number (Integer.chars n ++ rest) = .ok (.int n, rest) := by
  let p : NumberParts := ⟨natDigits n.natAbs, [], none⟩
  have hhead : p.whole = ['0'] ∨ p.whole.head? ≠ some '0' := by
    by_cases hzero : n.natAbs = 0
    · exact Or.inl (by show natDigits n.natAbs = ['0']; rw [hzero]; rfl)
    · exact Or.inr (head?_natDigits_ne hzero)
  have hp : p.WellFormed := {
    whole_ne_nil := natDigits_ne_nil _
    whole_digits := fun c => isDigit_of_mem_natDigits
    whole_head := hhead
    fraction_digits := fun c hc => absurd hc List.not_mem_nil
    power_digits := fun _ _ h => absurd h (by simp [p]) }
  have hchars : Integer.chars n = Binary64.withSign (n < 0) p.chars := by
    show Binary64.withSign (n < 0) p.whole = Binary64.withSign (n < 0) (p.whole ++ ([] ++ []))
    rw [List.append_nil, List.append_nil]
  have hvalue : Integer.ofDigits (n < 0) p.whole = .ok n := by
    unfold Integer.ofDigits
    rw [if_neg (Nat.not_lt.2 hsize), digitsValue_natDigits]
    by_cases hneg : n < 0
    · rw [if_pos (by simpa using hneg)]
      congr 1
      omega
    · rw [if_neg (by simpa using hneg)]
      congr 1
      omega
  rw [hchars, p.number_chars_eq hp hrest, if_pos ⟨rfl, rfl⟩, hvalue]

/-! ### Layouts of binary64 numbers -/

/-- Digits without a zero at their head. -/
structure LeadingDigits (digits : List Char) : Prop where
  ne_nil : digits ≠ []
  all_digits : ∀ c ∈ digits, c.isDigit = true
  head : digits.head? ≠ some '0'

theorem LeadingDigits.natDigits {n : Nat} (h : n ≠ 0) : LeadingDigits (natDigits n) where
  ne_nil := natDigits_ne_nil n
  all_digits := fun _ => isDigit_of_mem_natDigits
  head := head?_natDigits_ne h

/-- Digits behind which there are only zeros lead like the whole. -/
theorem LeadingDigits.of_append_zeros {digits : List Char} {k : Nat}
    (h : LeadingDigits (digits ++ List.replicate k '0')) : LeadingDigits digits := by
  have hne : digits ≠ [] := by
    rintro rfl
    cases k with
    | zero => exact h.ne_nil rfl
    | succ k => exact h.head rfl
  refine ⟨hne, fun c hc => h.all_digits c (List.mem_append_left _ hc), ?_⟩
  have hhead := h.head
  cases digits with
  | nil => exact absurd rfl hne
  | cons d ds => exact hhead

theorem isDigit_of_mem_zero {c : Char} (h : c ∈ ['0']) : c.isDigit = true := by
  rw [List.mem_singleton.1 h]
  decide

/-- Whether `cs` writes the value of a numeral without a sign, with a fraction or a power of ten. -/
def Writes (cs : List Char) (coefficient : Nat) (exponent : Int) : Prop :=
  ∃ p : NumberParts, p.WellFormed ∧ (p.fraction ≠ [] ∨ p.power ≠ none) ∧ p.chars = cs ∧
    ∀ negative, (p.numeral negative).toBinary64 =
      (Numeral.mk negative coefficient exponent).toBinary64

theorem Writes.number {cs : List Char} {coefficient : Nat} {exponent : Int}
    (h : Writes cs coefficient exponent) {rest : List Char} (hrest : EndsNumber rest)
    (negative : Bool) :
    number (Binary64.withSign negative cs ++ rest) =
      .ok (.float (Numeral.mk negative coefficient exponent).toBinary64, rest) := by
  obtain ⟨p, hp, hpart, rfl, hvalue⟩ := h
  rw [p.number_chars hp hpart hrest, hvalue]

/-- A power of ten may stand in the coefficient or in the exponent. -/
theorem Writes.shift {cs : List Char} {coefficient k : Nat} {exponent : Int}
    (h : Writes cs coefficient (exponent + k)) :
    Writes cs (coefficient * powerOfTen k) exponent := by
  obtain ⟨p, hp, hpart, hchars, hvalue⟩ := h
  refine ⟨p, hp, hpart, hchars, fun negative => ?_⟩
  rw [hvalue, Numeral.toBinary64_shift]

/-- Digits below the point. -/
theorem writes_below {digits : List Char} (h : LeadingDigits digits) (zeros : Nat) :
    Writes ("0.".toList ++ List.replicate zeros '0' ++ digits) (digitsValue digits)
      (-(zeros + digits.length : Nat)) := by
  refine ⟨⟨['0'], List.replicate zeros '0' ++ digits, none⟩, ?_, ?_, ?_, ?_⟩
  · refine ⟨by simp, fun c => isDigit_of_mem_zero, Or.inl rfl, ?_, by simp⟩
    intro c hc
    rcases List.mem_append.1 hc with hc | hc
    · exact isDigit_of_mem_zeros hc
    · exact h.all_digits c hc
  · exact Or.inl (List.append_ne_nil_of_right_ne_nil _ h.ne_nil)
  · simp [NumberParts.chars, NumberParts.fractionChars, NumberParts.powerChars, h.ne_nil]
  · intro negative
    have hvalue : digitsValue ('0' :: (List.replicate zeros '0' ++ digits)) =
        digitsValue digits := by
      rw [← List.cons_append, ← List.replicate_succ, digitsValue_zeros_append]
    simp [NumberParts.numeral, NumberParts.exponent, hvalue]

/-- Digits before the point. -/
theorem writes_above {digits : List Char} (h : LeadingDigits digits) (zeros : Nat) :
    Writes (digits ++ List.replicate zeros '0' ++ ".0".toList) (digitsValue digits) zeros := by
  refine ⟨⟨digits ++ List.replicate zeros '0', ['0'], none⟩, ?_, ?_, ?_, ?_⟩
  · refine ⟨List.append_ne_nil_of_left_ne_nil h.ne_nil _, ?_, Or.inr ?_,
      fun c => isDigit_of_mem_zero, by simp⟩
    · intro c hc
      rcases List.mem_append.1 hc with hc | hc
      · exact h.all_digits c hc
      · exact isDigit_of_mem_zeros hc
    · cases digits with
      | nil => exact absurd rfl h.ne_nil
      | cons d ds => exact h.head
  · exact Or.inl (by simp)
  · simp [NumberParts.chars, NumberParts.fractionChars, NumberParts.powerChars]
  · intro negative
    have hvalue : digitsValue (digits ++ List.replicate zeros '0' ++ ['0']) =
        digitsValue digits * powerOfTen (zeros + 1) := by
      rw [List.append_assoc, ← digitsValue_append_zeros, List.replicate_succ']
    simp only [NumberParts.numeral, NumberParts.exponent, hvalue]
    rw [Numeral.toBinary64_shift, List.length_singleton]
    congr 2
    omega

/-- Digits on both sides of the point. -/
theorem writes_around {digits : List Char} (h : LeadingDigits digits) {n : Nat} (hpos : 0 < n)
    (hlt : n < digits.length) :
    Writes (digits.take n ++ '.' :: digits.drop n) (digitsValue digits)
      (n - digits.length : Int) := by
  have hdrop : digits.drop n ≠ [] := by
    rw [Ne, List.drop_eq_nil_iff]
    omega
  have htake : digits.take n ≠ [] := by
    rw [Ne, List.take_eq_nil_iff]
    rintro (rfl | rfl)
    · exact absurd hpos (by decide)
    · exact h.ne_nil rfl
  refine ⟨⟨digits.take n, digits.drop n, none⟩, ?_, Or.inl hdrop, ?_, ?_⟩
  · refine ⟨htake, fun c hc => h.all_digits c (List.mem_of_mem_take hc), Or.inr ?_,
      fun c hc => h.all_digits c (List.mem_of_mem_drop hc), by simp⟩
    rw [List.head?_take, if_neg (by omega)]
    exact h.head
  · simp [NumberParts.chars, NumberParts.fractionChars, NumberParts.powerChars, hdrop]
  · intro negative
    simp only [NumberParts.numeral, NumberParts.exponent, List.take_append_drop, List.length_drop]
    congr 2
    omega

/-- A digit before the point and a power of ten. -/
theorem writes_scientific {digits : List Char} (h : LeadingDigits digits) (width : Nat)
    (power : Int) :
    Writes (Binary64.scientific width digits power) (digitsValue digits)
      (power - (digits.length - 1 : Nat)) := by
  have hpower : ∀ c ∈ Text.padLeft '0' width (natDigits power.natAbs), c.isDigit = true :=
    fun c => isDigit_of_mem_padLeft
  have hne : Text.padLeft '0' width (natDigits power.natAbs) ≠ [] :=
    List.append_ne_nil_of_right_ne_nil _ (natDigits_ne_nil _)
  have hvalue : digitsValue (Text.padLeft '0' width (natDigits power.natAbs)) = power.natAbs :=
    digitsValue_padLeft width power.natAbs
  cases digits with
  | nil => exact absurd rfl h.ne_nil
  | cons d ds =>
    refine ⟨⟨[d], ds, some (power < 0, Text.padLeft '0' width (natDigits power.natAbs))⟩, ?_,
      Or.inr (by simp), ?_, ?_⟩
    · refine ⟨by simp, ?_, Or.inr h.head,
        fun c hc => h.all_digits c (List.mem_cons_of_mem d hc), ?_⟩
      · intro c hc
        rw [List.mem_singleton.1 hc]
        exact h.all_digits d List.mem_cons_self
      · intro negative digits hp
        cases hp
        exact ⟨hne, hpower⟩
    · cases ds <;>
        simp [NumberParts.chars, NumberParts.fractionChars, NumberParts.powerChars,
          Binary64.scientific]
    · intro negative
      have hexponent : (if power < 0 then -(power.natAbs : Int) else power.natAbs) = power := by
        split <;> omega
      dsimp only [NumberParts.numeral, NumberParts.exponent]
      rw [hvalue, List.singleton_append]
      simp only [decide_eq_true_eq, hexponent]
      rfl

/-- Digits without a power of ten. -/
theorem writes_positional {digits : List Char} (h : LeadingDigits digits) (point : Int) :
    Writes (Binary64.positional digits point) (digitsValue digits) (point - digits.length) := by
  unfold Binary64.positional
  by_cases hpoint : point ≤ 0
  · rw [if_pos hpoint]
    have hexponent : -(((-point).toNat + digits.length : Nat) : Int) = point - digits.length := by
      omega
    have hwrites := writes_below h (-point).toNat
    rwa [hexponent] at hwrites
  · rw [if_neg hpoint]
    dsimp only
    by_cases hlen : digits.length ≤ point.toNat
    · rw [if_pos hlen]
      have hexponent : ((point.toNat - digits.length : Nat) : Int) = point - digits.length := by
        omega
      have hwrites := writes_above h (point.toNat - digits.length)
      rwa [hexponent] at hwrites
    · rw [if_neg hlen]
      have hexponent : (point.toNat - digits.length : Int) = point - digits.length := by omega
      have hwrites := writes_around h (n := point.toNat) (by omega) (by omega)
      rwa [hexponent] at hwrites

/-- The text of a magnitude writes its shortest decimal. -/
theorem writes_magnitudeText {units : Nat} (h : Binary64.Representable units) (hne : units ≠ 0)
    (style : NumberStyle) :
    Writes (Binary64.magnitudeText style units) (Binary64.shortest units).1
      (Binary64.shortest units).2 := by
  have hcoefficient := Binary64.coefficient_shortest_ne_zero h hne
  unfold Binary64.magnitudeText
  rw [if_neg hne]
  generalize Binary64.shortest units = decimal at hcoefficient
  obtain ⟨coefficient, exponent⟩ := decimal
  dsimp only at hcoefficient ⊢
  obtain ⟨k, hdigits⟩ := exists_trimmed_zeros (natDigits coefficient)
  generalize Text.trimRightBy (· == '0') (natDigits coefficient) = digits at hdigits
  have hleading : LeadingDigits digits := by
    have hwhole := LeadingDigits.natDigits hcoefficient
    rw [hdigits] at hwhole
    exact hwhole.of_append_zeros
  have hvalue : coefficient = digitsValue digits * powerOfTen k := by
    rw [← digitsValue_append_zeros, ← hdigits, digitsValue_natDigits]
  have hlength : (natDigits coefficient).length = digits.length + k := by
    rw [hdigits, List.length_append, List.length_replicate]
  have hpos : 0 < digits.length := List.length_pos_iff.2 hleading.ne_nil
  rw [hlength]
  -- the zeros that are left out go to the exponent
  have hlayout : Writes (if style.leastPositional ≤ (digits.length + k : Nat) + exponent - 1 ∧
        (digits.length + k : Nat) + exponent - 1 < style.leastScaled then
      Binary64.positional digits ((digits.length + k : Nat) + exponent)
      else Binary64.scientific style.exponentDigits digits
        ((digits.length + k : Nat) + exponent - 1)) (digitsValue digits) (exponent + k) := by
    split
    · have hwrites := writes_positional hleading ((digits.length + k : Nat) + exponent)
      rwa [show ((digits.length + k : Nat) + exponent - digits.length : Int) = exponent + k by
        omega] at hwrites
    · have hwrites := writes_scientific hleading style.exponentDigits
        ((digits.length + k : Nat) + exponent - 1)
      rwa [show ((digits.length + k : Nat) + exponent - 1 - (digits.length - 1 : Nat) : Int) =
        exponent + k by omega] at hwrites
  rw [hvalue]
  exact hlayout.shift

theorem writes_zero : Writes "0.0".toList 0 0 := by
  refine ⟨⟨['0'], ['0'], none⟩, ?_, Or.inl (by simp), rfl, fun negative => ?_⟩
  · exact ⟨by simp, fun c => isDigit_of_mem_zero, Or.inl rfl, fun c => isDigit_of_mem_zero, by simp⟩
  · have hnumeral : NumberParts.numeral ⟨['0'], ['0'], none⟩ negative = ⟨negative, 0, -1⟩ := rfl
    rw [hnumeral, Numeral.toBinary64_zero, Numeral.toBinary64_zero]

/-- A finite number is read as it was written. -/
theorem number_finite (negative : Bool) {units : Nat} (h : Binary64.Representable units)
    {rest : List Char} (hrest : EndsNumber rest) :
    number ((Binary64.finite negative units h).textChars ++ rest) =
      .ok (.float (.finite negative units h), rest) := by
  show number (Binary64.withSign negative (Binary64.magnitudeText Binary64.style units) ++ rest) = _
  by_cases hzero : units = 0
  · subst hzero
    rw [Binary64.magnitudeText, if_pos rfl, writes_zero.number hrest, Numeral.toBinary64_zero,
      Binary64.ofUnits_of_representable h]
  · rw [(writes_magnitudeText h hzero _).number hrest, Binary64.toBinary64_shortest h]

end SpendingLedger.Json

import SpendingLedger.Amount
import SpendingLedger.Proofs.Number.Order
import SpendingLedger.Proofs.Number.Overflow

/-!
# Finite amounts

Almost every value has a finite amount: what is no number counts as zero, and so do infinities and
data that are no number.  Three kinds of values are left out.  An integer that reaches
`Binary64.overflowThreshold` and a signalling decimal have no amount at all.  A text is only looked
at before it is rounded: a decimal that reaches the threshold is accepted, and its amount is
infinite.

## Main definitions

* `Amount.Writes` — the finite decimal that stands under the decorations of a text.
* `Amount.LacksFiniteAmount` — the values without a finite amount.

## Main results

* `Amount.parse_eq_ok_iff` — the texts that are amounts, and the amounts that they are.
* `Amount.exists_finite_coerce_iff` — **the values with a finite amount**, and the texts that are
  read as one.
-/

namespace SpendingLedger.Amount

open Binary64 (overflowThreshold)

/-! ### The decimal under the decorations -/

/-- Whether `raw` writes the decimal `x` under its decorations, with commas left out. -/
def Writes (raw : String) (x : Numeral) : Prop :=
  let core := (undecorate (Text.trimChars raw.toList)).2.filter (· ≠ ',')
  '_' ∉ core ∧ Decimal.parse? core = some (.finite x)

/-- Whether one of the decorations of `raw` makes its amount negative. -/
def isNegated (raw : String) : Bool := (undecorate (Text.trimChars raw.toList)).1

theorem parseCore?_eq_some_iff {core : List Char} {y : Binary64} :
    parseCore? core = some y ↔
      '_' ∉ core.filter (· ≠ ',') ∧
        ∃ x, Decimal.parse? (core.filter (· ≠ ',')) = some (.finite x) ∧ x.toBinary64 = y := by
  unfold parseCore?
  dsimp only
  generalize core.filter (· ≠ ',') = digits
  split
  · next hmark => simp_all
  · next hmark =>
    split
    · next x hx => simp_all
    · next hother =>
      refine iff_of_false (by simp) ?_
      rintro ⟨-, x, hx, -⟩
      exact hother x hx

/-- Nothing is under the decorations of a blank text. -/
theorem trimChars_ne_nil_of_writes {raw : String} {x : Numeral} (h : Writes raw x) :
    Text.trimChars raw.toList ≠ [] := by
  intro hblank
  have hcore : undecorate [] = (false, []) := undecorate_of_peel?_eq_none rfl
  have hnone : Decimal.parse? [] = none := by decide
  rw [Writes, hblank, hcore] at h
  exact absurd (hnone.symm.trans h.2) (by simp)

/-- A text is an amount exactly if it writes a decimal, and its amount is the number nearest to that
decimal. -/
theorem parse_eq_ok_iff {raw : String} {y : Binary64} :
    parse raw = .ok y ↔
      ∃ x, Writes raw x ∧ y = if isNegated raw then x.toBinary64.abs.neg else x.toBinary64 := by
  unfold parse
  dsimp only
  split
  · next hblank =>
    refine iff_of_false (by simp) ?_
    rintro ⟨x, hx, -⟩
    exact trimChars_ne_nil_of_writes hx (List.isEmpty_iff.1 hblank)
  · split
    · next hnone =>
      refine iff_of_false (by simp) ?_
      rintro ⟨x, hx, -⟩
      exact absurd (hnone.symm.trans (parseCore?_eq_some_iff.2 ⟨hx.1, x, hx.2, rfl⟩)) (by simp)
    · next z hz =>
      obtain ⟨hmark, x, hx, rfl⟩ := parseCore?_eq_some_iff.1 hz
      constructor
      · intro h
        cases h
        exact ⟨x, ⟨hmark, hx⟩, rfl⟩
      · rintro ⟨x', hx', rfl⟩
        obtain rfl : x = x' := by simpa using hx.symm.trans hx'.2
        rfl

/-- An amount is a number, though it may be infinite. -/
theorem isNaN_of_parse {raw : String} {y : Binary64} (h : parse raw = .ok y) :
    y.isNaN = false := by
  obtain ⟨x, -, rfl⟩ := parse_eq_ok_iff.1 h
  rw [Numeral.toBinary64_eq_ofRatio]
  split <;> simp [Binary64.isNaN_ofRatio]

/-! ### Texts -/

theorem isFinite_negated (negative : Bool) (x : Binary64) :
    (if negative then x.abs.neg else x).isFinite = x.isFinite := by
  cases negative <;> simp

/-- A text is read as a finite amount, if as any, unless its decimal reaches the threshold. -/
theorem isFinite_parse_iff (raw : String) :
    (∀ y, parse raw = .ok y → y.isFinite = true) ↔
      ¬ ∃ x, Writes raw x ∧ (overflowThreshold : ℚ) ≤ x.magnitude := by
  constructor
  · rintro h ⟨x, hx, hlarge⟩
    have hfinite := h _ (parse_eq_ok_iff.2 ⟨x, hx, rfl⟩)
    rw [isFinite_negated, Numeral.isFinite_toBinary64_iff] at hfinite
    exact absurd hfinite (not_lt.2 hlarge)
  · rintro h y hy
    obtain ⟨x, hx, rfl⟩ := parse_eq_ok_iff.1 hy
    rw [isFinite_negated, Numeral.isFinite_toBinary64_iff]
    exact not_le.1 fun hlarge => h ⟨x, hx, hlarge⟩

/-! ### Values -/

/-- Whether a value has no amount or an infinite one. -/
def LacksFiniteAmount : Value → Prop
  | .int n => overflowThreshold ≤ n.natAbs
  | .decimal (.nan _ signaling _) => signaling = true
  | .text s => ∃ x, Writes s x ∧ (overflowThreshold : ℚ) ≤ x.magnitude
  | _ => False

theorem isFinite_finiteOrZero (x : Binary64) : (finiteOrZero x).isFinite = true := by
  unfold finiteOrZero
  split
  · assumption
  · rfl

/-- A number has a finite amount unless it has none. -/
theorem exists_finite_ofNumber_iff (misfit : Misfit) (x : Option Binary64) :
    (∃ y, ofNumber misfit x = .ok y ∧ y.isFinite = true) ↔ x ≠ none := by
  cases x with
  | none => simp [ofNumber]
  | some x => simp [ofNumber, isFinite_finiteOrZero]

theorem toBinary64?_eq_none_iff (d : Decimal) :
    d.toBinary64? = none ↔ ∃ negative payload, d = .nan negative true payload := by
  cases d with
  | finite x => simp [Decimal.toBinary64?]
  | infinite s => simp [Decimal.toBinary64?]
  | nan s signaling payload => cases signaling <;> simp [Decimal.toBinary64?]

theorem coerce_text (s : String) :
    coerce (.text s) = .ok ((parse s).toOption.getD .zero) := rfl

/-- A text has a finite amount exactly if it is not read as an infinite one. -/
theorem exists_finite_coerce_text_iff (s : String) :
    (∃ y, coerce (.text s) = .ok y ∧ y.isFinite = true) ↔
      ∀ y, parse s = .ok y → y.isFinite = true := by
  rw [coerce_text]
  cases parse s with
  | error e => exact iff_of_true ⟨.zero, rfl, rfl⟩ (by simp)
  | ok y => simp [Except.toOption]

/-- **The values with a finite amount.**  All but the integers and the texts that reach the
threshold and the signalling decimals have one; and a text that is an amount is a finite one unless
its decimal reaches the threshold. -/
theorem exists_finite_coerce_iff (v : Value) (raw : String) :
    ((∃ y, coerce v = .ok y ∧ y.isFinite = true) ↔ ¬ LacksFiniteAmount v) ∧
    ((∀ y, parse raw = .ok y → y.isFinite = true) ↔
      ¬ ∃ x, Writes raw x ∧ (overflowThreshold : ℚ) ≤ x.magnitude) := by
  refine ⟨?_, isFinite_parse_iff raw⟩
  have hzero : ∃ y, (Except.ok .zero : Except Misfit Binary64) = .ok y ∧ y.isFinite = true :=
    ⟨.zero, rfl, rfl⟩
  cases v with
  | null => exact iff_of_true hzero id
  | bool b => exact iff_of_true hzero id
  | list items => exact iff_of_true hzero id
  | table fields => exact iff_of_true hzero id
  | float x => exact iff_of_true ⟨_, rfl, isFinite_finiteOrZero x⟩ id
  | int n =>
    rw [coerce, exists_finite_ofNumber_iff, Ne, Binary64.ofInt?_eq_none_iff]
    rfl
  | decimal d =>
    rw [coerce, exists_finite_ofNumber_iff, Ne, toBinary64?_eq_none_iff]
    cases d <;> simp [LacksFiniteAmount]
  | text s =>
    rw [exists_finite_coerce_text_iff, isFinite_parse_iff]
    rfl

/-- Neither an amount of every value, nor a finite one of every text. -/
theorem not_finite_coerce :
    parse "1e400" = .ok (.infinite false) ∧ coerce (.text "1e400") = .ok (.infinite false) ∧
    coerce (.decimal (.nan false true 0)) = .error .signaling ∧
    coerce (.int (10 ^ 400)) = .error .tooLarge := by
  have hcore : undecorate "1e400".toList = (false, "1e400".toList) :=
    undecorate_of_peel?_eq_none (by decide)
  have hparse : parse "1e400" = .ok (.infinite false) := by
    rw [parse, show Text.trimChars "1e400".toList = "1e400".toList by decide]
    simp only [hcore]
    decide +kernel
  refine ⟨hparse, ?_, rfl, by decide +kernel⟩
  rw [coerce, hparse]
  rfl

end SpendingLedger.Amount

import SpendingLedger.Proofs.Amount.Plain
import SpendingLedger.Proofs.Statement.Load
import SpendingLedger.Proofs.Statement.Table

/-!
# Amounts of a statement

The amount in a cell is found in two steps: the cell becomes an integer, a binary64 number or a
text, and that value has an amount.  The text of the cell may be an amount by itself, read as a
decimal under its sign.  Both ways agree.  An integer and a decimal of the same digits are rounded
to the same number.  A number with an exponent beyond the limits of decimals has a text that is no
amount, and so counts as zero; but it is a zero already, for the text of any other such number has
more digits than are read.

## Main results

* `Statement.exists_numeral_of_writesFloat`, `Statement.parse?_of_isInteger` — the numeral that is
  spelled in a cell with a number.
* `Statement.numEq_coerce_of_cell` — **a cell has the amount of its text.**
* `Statement.amount_of_cell_text` — the cells with an amount, and the amounts of a statement.
-/

namespace SpendingLedger.Statement

open Binary64 (overflowThreshold)
open Text (Trimmed isSpace)

variable {cs : List Char} {x : Binary64}

/-! ### The numeral in a cell -/

theorem isFinite_of_parseNamed? (h : Binary64.parseNamed? cs = some x) : x.isFinite = false := by
  unfold Binary64.parseNamed? at h
  dsimp only at h
  split at h
  · cases h
    rfl
  · split at h
    · cases h
      rfl
    · cases h

/-- A cell with a number that is no integer spells a numeral of no more digits than are read. -/
theorem exists_numeral_of_writesFloat (htrimmed : Trimmed isSpace cs) (h : WritesFloat cs x) :
    ∃ y : Numeral, Numeral.parse? (commonDigits cs) = some y ∧
      Numeral.isOverlong (commonDigits cs) = false ∧ y.toBinary64 = x := by
  obtain ⟨hmark, -, hparse, hfinite⟩ := h
  have htrim : Text.trimBy Binary64.isPadding cs = cs :=
    Text.trimBy_of_trimmed (htrimmed.mono fun _ => isSpace_of_isPadding)
  have hmarks : '_' ∉ commonDigits cs := by
    intro hmem
    obtain ⟨c, hc, heq⟩ := List.mem_map.1 hmem
    exact hmark ((commonDigit_eq_iff (by decide) (by decide)).1 heq ▸ hc)
  unfold Binary64.parse? at hparse
  rw [String.toList_ofList, htrim, Binary64.dropGroupMarks_of_not_mem hmarks] at hparse
  change (Binary64.parseNamed? (commonDigits cs) <|> _) = some x at hparse
  cases hnamed : Binary64.parseNamed? (commonDigits cs) with
  | some y =>
    rw [hnamed] at hparse
    cases hparse
    rw [isFinite_of_parseNamed? hnamed] at hfinite
    cases hfinite
  | none =>
    rw [hnamed] at hparse
    obtain ⟨hshort, hnumeral⟩ := Option.ite_none_left_eq_some.1 hparse
    obtain ⟨y, hy, hvalue⟩ := Option.map_eq_some_iff.1 hnumeral
    exact ⟨y, hy, Bool.eq_false_iff.2 hshort, hvalue⟩

/-- A cell with an integer spells it as a numeral. -/
theorem parse?_of_isInteger (h : isInteger cs = true) :
    Numeral.parse? (commonDigits cs) =
      some ⟨(takeSign cs).1, digitsValue (commonDigits (takeSign cs).2), 0⟩ := by
  obtain ⟨hne, hdigits⟩ := isInteger_iff.1 h
  have hall : ∀ c ∈ commonDigits (takeSign cs).2, c.isDigit = true := fun c hc =>
    isDigit_of_mem_commonDigits (List.all_eq_true.2 hdigits) hc
  have hwhole : (commonDigits (takeSign cs).2).takeWhile Char.isDigit =
      commonDigits (takeSign cs).2 := List.takeWhile_eq_self_iff.2 hall
  have htail : (commonDigits (takeSign cs).2).dropWhile Char.isDigit = [] :=
    List.dropWhile_eq_nil_iff.2 hall
  have hsome : (commonDigits (takeSign cs).2).isEmpty = false := by
    simpa [commonDigits] using hne
  unfold Numeral.parse?
  rw [takeSign_commonDigits]
  dsimp only
  rw [hwhole, htail, hsome]
  simp [Numeral.takeFraction, Numeral.parsePower?]

/-! ### The amount of a cell -/

/-- The amount of an integer is the number nearest to it. -/
theorem coerce_int_eq_ok {n : Int} (h : Amount.coerce (.int n) = .ok x) :
    x = .ofRatio (n < 0) n.natAbs 1 := by
  have hnumber := Binary64.isNaN_ofRatio (n < 0) n.natAbs 1
  rw [Amount.coerce, Binary64.ofInt?] at h
  cases hvalue : Binary64.ofRatio (n < 0) n.natAbs 1 with
  | nan =>
    rw [hvalue] at hnumber
    cases hnumber
  | infinite s =>
    rw [hvalue] at h
    cases h
  | finite s u hu =>
    rw [hvalue] at h
    cases h
    rfl

/-- An integer and its text have the same amount, but a zero may have a minus sign in one of
them. -/
theorem numEq_of_coerce_int {negative : Bool} {m : Nat}
    (h : Amount.coerce (.int (if negative then -(m : Int) else m)) = .ok x) :
    x.numEq (Numeral.mk negative m 0).toBinary64 = true := by
  have hvalue : (Numeral.mk negative m 0).toBinary64 = .ofRatio negative m 1 := by
    rw [Numeral.toBinary64_eq_ofRatio]
    show Binary64.ofRatio negative (m * 1) 1 = _
    rw [Nat.mul_one]
  rw [coerce_int_eq_ok h, hvalue]
  by_cases hzero : m = 0
  · have hzeros : ∀ s, Binary64.ofRatio s 0 1 = .ofUnits s 0 := fun s => by simp [Binary64.ofRatio]
    have hnone : (if negative then -((0 : Nat) : Int) else (0 : Nat)) = 0 := by
      cases negative <;> rfl
    rw [hzero, hnone, Int.natAbs_zero, hzeros, hzeros]
    exact Binary64.numEq_ofUnits_zero _ _
  · have hsign : (decide ((if negative then -(m : Int) else m) < 0)) = negative := by
      cases negative with
      | false => simp
      | true => simpa using Nat.pos_of_ne_zero hzero
    have habs : (if negative then -(m : Int) else m).natAbs = m := by
      cases negative <;> simp
    rw [hsign, habs]
    exact Binary64.numEq_refl_of_isNaN (Binary64.isNaN_ofRatio negative m 1)

/-- An integer that is not overlong is within the limits of decimals. -/
theorem inLimits_of_isInteger (h : isInteger cs = true) (hshort : ¬IsOverlong cs) :
    Decimal.inLimits ⟨(takeSign cs).1, digitsValue (commonDigits (takeSign cs).2), 0⟩ = true := by
  have hlimit : (takeSign cs).2.length ≤ Integer.digitLimit :=
    Nat.not_lt.1 fun hlong => hshort ⟨h, hlong⟩
  have hlength := (length_natDigits_integerValue_le h).trans hlimit
  rw [natAbs_integerValue] at hlength
  unfold Integer.digitLimit at hlength
  unfold Decimal.inLimits Decimal.leastExponent Decimal.greatestPower
  simp only [Bool.and_eq_true, decide_eq_true_eq]
  omega

theorem coerce_numeral {y : Numeral} (h : Numeral.parse? (commonDigits cs) = some y) :
    Amount.coerce (.text (String.ofList cs)) =
      .ok (if Decimal.inLimits y then y.toBinary64 else .zero) := by
  rw [Amount.coerce_text, Amount.parse_of_numeral h]
  split <;> rfl

/-- **A cell has the amount of its text.** -/
theorem numEq_coerce_of_cell (htrimmed : Trimmed isSpace cs) {v : Value} (hcell : cell cs = .ok v)
    (hx : Amount.coerce v = .ok x) :
    ∃ y, Amount.coerce (.text (String.ofList cs)) = .ok y ∧ x.numEq y = true := by
  obtain ⟨hwrites, hshort⟩ := cell_eq_ok_iff.1 hcell
  cases hwrites with
  | integer hinteger =>
    refine ⟨_, coerce_numeral (parse?_of_isInteger hinteger), ?_⟩
    rw [if_pos (inLimits_of_isInteger hinteger hshort)]
    exact numEq_of_coerce_int hx
  | float hfloat =>
    obtain ⟨y, hy, hdigits, rfl⟩ := exists_numeral_of_writesFloat htrimmed hfloat
    have hfinite := hfloat.2.2.2
    rw [Amount.coerce_float_of_isFinite hfinite] at hx
    cases hx
    refine ⟨_, coerce_numeral hy, ?_⟩
    cases hlimits : Decimal.inLimits y with
    | true =>
      have hnumber : y.toBinary64.isNaN = false := by
        rw [Numeral.toBinary64_eq_ofRatio]
        exact Binary64.isNaN_ofRatio _ _ _
      exact Binary64.numEq_refl_of_isNaN hnumber
    | false =>
      -- the text is no amount, and the number is a zero
      rw [Numeral.toBinary64_of_not_inLimits (Numeral.length_natDigits_of_parse? hy hdigits)
        hfinite hlimits]
      exact Binary64.numEq_zero _
  | text =>
    refine ⟨x, hx, ?_⟩
    have hnumber : x.isNaN = false := by
      rw [Amount.coerce_text, Except.ok.injEq] at hx
      cases hparse : Amount.parse (String.ofList cs) with
      | error e =>
        rw [hparse] at hx
        exact hx ▸ rfl
      | ok y =>
        rw [hparse] at hx
        exact hx ▸ Amount.isNaN_of_parse hparse
    exact Binary64.numEq_refl_of_isNaN hnumber

/-- A cell has an amount unless it is an integer of too many digits, or one that is too large. -/
theorem exists_coerce_of_cell_iff :
    (∃ v x, cell cs = .ok v ∧ Amount.coerce v = .ok x) ↔
      ¬IsOverlong cs ∧ ¬(isInteger cs = true ∧ overflowThreshold ≤ (integerValue cs).natAbs) := by
  cases hcell : cell cs with
  | error e =>
    refine iff_of_false (by rintro ⟨v, x, ⟨⟩, -⟩) fun h => h.1 ?_
    exact exists_cell_eq_error_iff.1 ⟨e, hcell⟩
  | ok v =>
    obtain ⟨hwrites, hshort⟩ := cell_eq_ok_iff.1 hcell
    have hrefused := @coerce_eq_error_iff_of_writes cs v hwrites
    have hlarge : (∃ n, v = .int n ∧ overflowThreshold ≤ n.natAbs) ↔
        isInteger cs = true ∧ overflowThreshold ≤ (integerValue cs).natAbs := by
      cases hwrites with
      | integer h => simp [h]
      | float h => simp [h.2.1]
      | text h => simp [h]
    rw [and_iff_right hshort, ← hlarge]
    cases hcoerce : Amount.coerce v with
    | error e => exact iff_of_false (by simp [hcoerce]) (not_not.2 (hrefused.1 hcoerce).2)
    | ok x =>
      refine iff_of_true ⟨v, x, rfl, hcoerce⟩ fun hhuge => ?_
      rw [hrefused.2 ⟨rfl, hhuge⟩] at hcoerce
      cases hcoerce

/-! ### The amounts of a statement -/

/-- The amount of a transaction is that of the value in its row. -/
theorem coerce_of_transaction {mint : Mint} {minted : Nat} {r : Fields Value} {t : Transaction}
    (h : (transaction mint minted r).1 = .ok t) :
    Amount.coerce ((Fields.get? "amount" r).getD .null) = .ok t.amount := by
  have hnamed : ∀ id, transactionNamed id r = .ok t →
      Amount.coerce ((Fields.get? "amount" r).getD .null) = .ok t.amount := by
    intro id hid
    unfold transactionNamed at hid
    split at hid
    · cases hid
    split at hid
    · cases hid
    split at hid
    · cases hid
    next amount hamount =>
    cases hid
    exact hamount
  unfold transaction at h
  split at h
  · cases h
  split at h
  · exact hnamed _ h
  · exact hnamed _ h

/-- **The amounts of a statement.**  A trimmed cell with an amount has the amount of its text, as a
number.  It has one unless it is an integer of too many digits or one that is too large.  And the
amount of each transaction of a statement is that of the text of its cell, which stands in the last
column with the name. -/
theorem amount_of_cell_text :
    (∀ (cs : List Char) (v : Value) (x : Binary64), Trimmed isSpace cs → cell cs = .ok v →
      Amount.coerce v = .ok x →
      ∃ y, Amount.coerce (.text (String.ofList cs)) = .ok y ∧ x.numEq y = true) ∧
    (∀ cs : List Char, (∃ v x, cell cs = .ok v ∧ Amount.coerce v = .ok x) ↔
      ¬IsOverlong cs ∧ ¬(isInteger cs = true ∧ overflowThreshold ≤ (integerValue cs).natAbs)) ∧
    (∀ (mint : Mint) (minted n : Nat) (text : String) (ts : List Transaction),
      load mint minted text = (.ok ts, n) →
      List.Forall₂ (fun record t => ∃ column y,
        IsLastColumn (headerNames text) column "amount" ∧
        Amount.coerce (.text (Text.trim (String.ofList (record[column]?.getD [])))) = .ok y ∧
        t.amount.numEq y = true) (keptRecords text) ts) := by
  refine ⟨fun cs v x htrimmed hcell hx => numEq_coerce_of_cell htrimmed hcell hx,
    fun cs => exists_coerce_of_cell_iff, fun mint minted n text ts h => ?_⟩
  refine forall₂_of_load h ?_
  rintro hcolumns record r t hrow ⟨m, hm⟩
  obtain ⟨column, v, hcolumn, hv, hcell⟩ :=
    (isRowUnder_of_row hrow).values "amount" (hcolumns "amount" (by decide))
  have hamount := coerce_of_transaction hm
  rw [hv, Option.getD_some] at hamount
  obtain ⟨y, hy, hequal⟩ :=
    numEq_coerce_of_cell (Text.trimmed_trimBy isSpace _) hcell hamount
  refine ⟨column, y, hcolumn, ?_, hequal⟩
  rw [Text.trim, String.toList_ofList]
  exact hy

/-- A cell with a fraction, and the amounts of the statement with the rows of the number 7. -/
theorem amount_of_cell_text_sevens :
    cell "-0.10".toList = .ok (.float (.ofRatio true 1 10)) ∧
    (∃ y, Amount.coerce (.text (String.ofList "-0.10".toList)) = .ok y ∧
      (Binary64.ofRatio true 1 10).numEq y = true) ∧
    List.Forall₂ (fun record t => ∃ column y,
      IsLastColumn (headerNames sevens) column "amount" ∧
      Amount.coerce (.text (Text.trim (String.ofList (record[column]?.getD [])))) = .ok y ∧
      t.amount.numEq y = true) (keptRecords sevens) sevensRead := by
  have hparse : Binary64.parse? (String.ofList "-0.10".toList) = some (.ofRatio true 1 10) := by
    decide +kernel
  have hcell : cell "-0.10".toList = .ok (.float (.ofRatio true 1 10)) :=
    cell_eq_ok_iff.2 ⟨.float ⟨by decide, by decide, hparse, by decide +kernel⟩, by decide⟩
  refine ⟨hcell, ?_, amount_of_cell_text.2.2 _ 0 0 sevens sevensRead load_sevens⟩
  exact amount_of_cell_text.1 _ _ _ (by decide) hcell
    (Amount.coerce_float_of_isFinite (by decide +kernel))

end SpendingLedger.Statement

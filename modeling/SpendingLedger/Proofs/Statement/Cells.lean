import SpendingLedger.Proofs.Number.ReadBack
import SpendingLedger.Statement.Transactions

/-!
# Cells of a statement

A trimmed cell writes an integer, or a finite number that is no integer, or nothing but its text.
Only an integer with too many digits has no value.  The value of a cell is written again in one way,
whatever the way of the cell, and what is written again reads as the same value: two cells give the
same text only if they write the same number, or if they are the same text.

## Main definitions

* `Statement.Writes` — the values that a cell writes.
* `Statement.IsOverlong` — the cells without a value.
* `Statement.keptText` — the text of a cell once its value is written again.

## Main results

* `Statement.cell_eq_ok_iff`, `Statement.exists_cell_eq_error_iff` — the value of a cell.
* `Statement.writes_asText` — **the text of a value is a cell with that value.**
* `Statement.trimmedText_of_cell`, `Statement.eq_of_keptText_eq` — what is left of a cell, and the
  cells of which the same is left.
-/

namespace SpendingLedger.Statement

open Text (Trimmed isSpace)

/-- The integer that digits of any script behind an optional sign write. -/
def integerValue (cs : List Char) : Int :=
  let (negative, digits) := takeSign cs
  let magnitude := digitsValue (commonDigits digits)
  if negative then -(magnitude : Int) else magnitude

/-- Whether `cs` writes the finite number `x` as no integer, without underscores. -/
def WritesFloat (cs : List Char) (x : Binary64) : Prop :=
  '_' ∉ cs ∧ isInteger cs = false ∧ Binary64.parse? (String.ofList cs) = some x ∧
    x.isFinite = true

/-- The values that a trimmed cell writes: a number, or else its text. -/
inductive Writes (cs : List Char) : Value → Prop
  | integer (h : isInteger cs = true) : Writes cs (.int (integerValue cs))
  | float {x : Binary64} (h : WritesFloat cs x) : Writes cs (.float x)
  | text (hinteger : isInteger cs = false) (hfloat : ∀ x, ¬WritesFloat cs x) :
    Writes cs (.text (String.ofList cs))

/-- Whether `cs` writes an integer with more digits than are read. -/
def IsOverlong (cs : List Char) : Prop :=
  isInteger cs = true ∧ Integer.digitLimit < (takeSign cs).2.length

instance (cs : List Char) : Decidable (IsOverlong cs) :=
  inferInstanceAs (Decidable (_ ∧ _))

/-- The text that is left of a cell once its value is written again. -/
def keptText (cs : List Char) : String :=
  if isInteger cs then String.ofList (Integer.chars (integerValue cs))
  else match Binary64.parse? (String.ofList cs) with
    | some x => if '_' ∉ cs ∧ x.isFinite = true then x.text else String.ofList cs
    | none => String.ofList cs

/-! ### The value of a cell -/

theorem isInteger_iff {cs : List Char} :
    isInteger cs = true ↔
      (takeSign cs).2 ≠ [] ∧ ∀ c ∈ (takeSign cs).2, Text.isDecimalDigit c = true := by
  unfold isInteger
  simp only [Bool.and_eq_true, Bool.not_eq_true', List.isEmpty_eq_false_iff, List.all_eq_true]

theorem ne_nil_of_isInteger {cs : List Char} (h : isInteger cs = true) : cs ≠ [] := by
  rintro rfl
  cases h

/-- An integer consists of a sign and of digits. -/
theorem mem_of_isInteger {cs : List Char} (h : isInteger cs = true) {c : Char} (hc : c ∈ cs) :
    c = '+' ∨ c = '-' ∨ Text.isDecimalDigit c = true := by
  obtain ⟨-, hdigits⟩ := isInteger_iff.1 h
  rcases mem_of_mem_takeSign hc with rfl | rfl | hc
  · exact Or.inl rfl
  · exact Or.inr (Or.inl rfl)
  · exact Or.inr (Or.inr (hdigits c hc))

theorem underscore_notMem_of_isInteger {cs : List Char} (h : isInteger cs = true) :
    '_' ∉ cs := by
  intro hmem
  rcases mem_of_isInteger h hmem with hsign | hsign | hdigit
  · exact absurd hsign (by decide)
  · exact absurd hsign (by decide)
  · exact absurd hdigit (by decide)

theorem not_writesFloat_nil (x : Binary64) : ¬WritesFloat [] x := by
  rintro ⟨-, -, hparse, -⟩
  have hnone : Binary64.parse? (String.ofList []) = none := by decide
  rw [hnone] at hparse
  cases hparse

/-- A cell with an integer has a value unless it is overlong. -/
theorem cell_of_isInteger {cs : List Char} (h : isInteger cs = true) :
    cell cs = if Integer.digitLimit < (takeSign cs).2.length
      then .error ⟨(takeSign cs).2.length⟩ else .ok (.int (integerValue cs)) := by
  have hcond : (cs.isEmpty || cs.contains '_') = false := by
    simp [ne_nil_of_isInteger h, underscore_notMem_of_isInteger h]
  unfold cell
  rw [if_neg (by simp only [hcond, Bool.false_eq_true, not_false_eq_true]), if_pos h]
  have hlength : (commonDigits (takeSign cs).2).length = (takeSign cs).2.length :=
    List.length_map _
  unfold Integer.ofDigits integerValue
  dsimp only
  rw [hlength]
  split <;> rfl

/-- A cell without an integer always has a value. -/
theorem exists_cell_of_isInteger_eq_false {cs : List Char} (h : isInteger cs = false) :
    ∃ v, cell cs = .ok v ∧ Writes cs v := by
  unfold cell
  split
  · -- nothing, and what has an underscore, is never looked at as a number
    next hcond =>
    refine ⟨_, rfl, .text h fun x hx => ?_⟩
    rcases Bool.or_eq_true_iff.1 hcond with hempty | hmark
    · rw [List.isEmpty_iff.1 hempty] at hx
      exact not_writesFloat_nil x hx
    · exact hx.1 (by simpa using hmark)
  next hcond =>
  have hmark : '_' ∉ cs := fun hmem => hcond (by simp [hmem])
  rw [if_neg (by simp only [h, Bool.false_eq_true, not_false_eq_true])]
  split
  · next x hx =>
    by_cases hfinite : x.isFinite = true
    · rw [if_pos hfinite]
      exact ⟨_, rfl, .float ⟨hmark, h, hx, hfinite⟩⟩
    · -- infinities and what is no number stay texts
      rw [if_neg hfinite]
      refine ⟨_, rfl, .text h fun y hy => ?_⟩
      obtain rfl : x = y := Option.some.inj (hx.symm.trans hy.2.2.1)
      exact hfinite hy.2.2.2
  · next hnone =>
    refine ⟨_, rfl, .text h fun y hy => ?_⟩
    rw [hy.2.2.1] at hnone
    cases hnone

/-- A cell writes its value. -/
theorem writes_of_cell {cs : List Char} {v : Value} (h : cell cs = .ok v) : Writes cs v := by
  cases hinteger : isInteger cs with
  | true =>
    rw [cell_of_isInteger hinteger] at h
    split at h
    · cases h
    · cases h
      exact .integer hinteger
  | false =>
    obtain ⟨w, hw, hwrites⟩ := exists_cell_of_isInteger_eq_false hinteger
    rw [hw] at h
    cases h
    exact hwrites

/-- A cell writes one value. -/
theorem Writes.unique {cs : List Char} {v w : Value} (hv : Writes cs v) (hw : Writes cs w) :
    v = w := by
  cases hv with
  | integer h =>
    cases hw with
    | integer => rfl
    | float hw => rw [hw.2.1] at h; cases h
    | text hw => rw [hw] at h; cases h
  | float h =>
    cases hw with
    | integer hw => rw [h.2.1] at hw; cases hw
    | float hw => rw [Option.some.inj (h.2.2.1.symm.trans hw.2.2.1)]
    | text _ hw => exact absurd h (hw _)
  | text hinteger hfloat =>
    cases hw with
    | integer hw => rw [hinteger] at hw; cases hw
    | float hw => exact absurd hw (hfloat _)
    | text => rfl

/-- The cells without a value are those with an integer of too many digits. -/
theorem exists_cell_eq_error_iff {cs : List Char} :
    (∃ e, cell cs = .error e) ↔ IsOverlong cs := by
  unfold IsOverlong
  cases h : isInteger cs with
  | true =>
    rw [cell_of_isInteger h]
    split
    · next hlong => exact iff_of_true ⟨_, rfl⟩ ⟨rfl, hlong⟩
    · next hshort =>
      refine iff_of_false ?_ fun hlong => hshort hlong.2
      rintro ⟨e, he⟩
      cases he
  | false =>
    obtain ⟨v, hv, -⟩ := exists_cell_of_isInteger_eq_false h
    rw [hv]
    refine iff_of_false ?_ fun hlong => by cases hlong.1
    rintro ⟨e, he⟩
    cases he

/-- The value of a cell is what it writes, unless that is too long. -/
theorem cell_eq_ok_iff {cs : List Char} {v : Value} :
    cell cs = .ok v ↔ Writes cs v ∧ ¬IsOverlong cs := by
  constructor
  · intro h
    refine ⟨writes_of_cell h, ?_⟩
    rw [← exists_cell_eq_error_iff, h]
    rintro ⟨e, he⟩
    cases he
  · rintro ⟨hwrites, hshort⟩
    cases hcell : cell cs with
    | error e => exact absurd (exists_cell_eq_error_iff.1 ⟨e, hcell⟩) hshort
    | ok w => rw [(writes_of_cell hcell).unique hwrites]

/-! ### The text of the value of a cell -/

theorem asText_int (n : Int) : (Value.int n).asText = Integer.text n := by
  show ((Integer.text n).map String.toList).map String.ofList = Integer.text n
  cases Integer.text n with
  | error e => rfl
  | ok s => simp [Except.map]

theorem asText_float (x : Binary64) : (Value.float x).asText = .ok x.text := rfl

/-- An integer has a text if it has not too many digits. -/
theorem text_eq_ok_iff {n : Int} {s : String} :
    Integer.text n = .ok s ↔
      (natDigits n.natAbs).length ≤ Integer.digitLimit ∧ s = String.ofList (Integer.chars n) := by
  unfold Integer.text
  dsimp only
  split
  · next hlong =>
    refine iff_of_false (by rintro ⟨⟩) ?_
    rintro ⟨hshort, -⟩
    exact absurd hlong (Nat.not_lt.2 hshort)
  · next hshort =>
    constructor
    · intro h
      cases h
      exact ⟨Nat.not_lt.1 hshort, rfl⟩
    · rintro ⟨-, rfl⟩
      rfl

theorem natAbs_integerValue (cs : List Char) :
    (integerValue cs).natAbs = digitsValue (commonDigits (takeSign cs).2) := by
  unfold integerValue
  dsimp only
  split <;> omega

/-- An integer has no more digits than the cell that writes it: what the cell has besides are
zeros in front. -/
theorem length_natDigits_integerValue_le {cs : List Char} (h : isInteger cs = true) :
    (natDigits (integerValue cs).natAbs).length ≤ (takeSign cs).2.length := by
  obtain ⟨hne, hdigits⟩ := isInteger_iff.1 h
  have hcommon : ∀ c ∈ commonDigits (takeSign cs).2, c.isDigit = true := fun c hc =>
    isDigit_of_mem_commonDigits (List.all_eq_true.2 hdigits) hc
  have hsize : (commonDigits (takeSign cs).2).length = (takeSign cs).2.length :=
    List.length_map _
  rw [natAbs_integerValue, ← hsize]
  exact length_natDigits_digitsValue_le (fun hnil => hne (List.map_eq_nil_iff.1 hnil)) hcommon

/-- The value of a cell has a text. -/
theorem exists_asText {cs : List Char} {v : Value} (h : cell cs = .ok v) :
    ∃ s, v.asText = .ok s := by
  obtain ⟨hwrites, hshort⟩ := cell_eq_ok_iff.1 h
  cases hwrites with
  | integer hinteger =>
    have hlimit : (takeSign cs).2.length ≤ Integer.digitLimit :=
      Nat.not_lt.1 fun hlong => hshort ⟨hinteger, hlong⟩
    refine ⟨String.ofList (Integer.chars (integerValue cs)), ?_⟩
    rw [asText_int, text_eq_ok_iff]
    exact ⟨Nat.le_trans (length_natDigits_integerValue_le hinteger) hlimit, rfl⟩
  | float => exact ⟨_, rfl⟩
  | text => exact ⟨_, rfl⟩

/-- The text of the value of a cell is what is left of the cell. -/
theorem eq_keptText {cs : List Char} {v : Value} (h : Writes cs v) {s : String}
    (hs : v.asText = .ok s) : s = keptText cs := by
  unfold keptText
  cases h with
  | integer h =>
    rw [asText_int, text_eq_ok_iff] at hs
    rw [if_pos h, hs.2]
  | float h =>
    rw [asText_float] at hs
    cases hs
    obtain ⟨hmark, hinteger, hparse, hfinite⟩ := h
    rw [if_neg (Bool.eq_false_iff.1 hinteger), hparse]
    exact (if_pos ⟨hmark, hfinite⟩).symm
  | text hinteger hfloat =>
    cases hs
    rw [if_neg (Bool.eq_false_iff.1 hinteger)]
    split
    · next x hparse =>
      rw [if_neg]
      rintro ⟨hmark, hfinite⟩
      exact hfloat x ⟨hmark, hinteger, hparse, hfinite⟩
    · rfl

example : keptText "+007".toList = "7" ∧ keptText "12.50".toList = "12.5" ∧
    keptText "1_0".toList = "1_0" ∧ keptText "inf".toList = "inf" := by decide +kernel

/-! ### Cells that are texts of values -/

theorem takeSign_integerChars (n : Int) :
    takeSign (Integer.chars n) = (decide (n < 0), natDigits n.natAbs) := by
  unfold Integer.chars
  cases hdigits : natDigits n.natAbs with
  | nil => exact absurd hdigits (natDigits_ne_nil _)
  | cons d ds =>
    have hd : d.isDigit = true := isDigit_of_mem_natDigits (hdigits ▸ List.mem_cons_self)
    exact takeSign_withSign_cons hd _

theorem isInteger_integerChars (n : Int) : isInteger (Integer.chars n) = true := by
  rw [isInteger_iff, takeSign_integerChars]
  refine ⟨natDigits_ne_nil _, fun c hc => ?_⟩
  unfold Text.isDecimalDigit
  rw [decimalDigit?_of_isDigit (isDigit_of_mem_natDigits hc)]
  rfl

theorem integerValue_integerChars (n : Int) : integerValue (Integer.chars n) = n := by
  have hcommon : commonDigits (natDigits n.natAbs) = natDigits n.natAbs :=
    commonDigits_eq_self fun c hc => Or.inl (isDigit_of_mem_natDigits hc)
  unfold integerValue
  rw [takeSign_integerChars]
  dsimp only
  rw [hcommon, digitsValue_natDigits]
  split
  · next hneg => have := of_decide_eq_true hneg; omega
  · next hpos => have := of_decide_eq_false (Bool.eq_false_iff.2 hpos); omega

/-- The text of a finite number has a point or a power of ten, so it is no integer. -/
theorem writesFloat_textChars {x : Binary64} (h : x.isFinite = true) :
    WritesFloat x.textChars x := by
  obtain ⟨negative, p, hp, hpart, hchars, -⟩ := Binary64.exists_parts_of_isFinite h
  refine ⟨?_, ?_, Binary64.parse?_text h, h⟩
  · rw [hchars]
    intro hmem
    exact ne_underscore_of_isNumberChar
      (Json.NumberParts.isNumberChar_of_mem_withSign hp hmem) rfl
  · rw [Bool.eq_false_iff]
    intro hinteger
    rw [hchars] at hinteger
    rcases Json.NumberParts.mark_mem_withSign hpart negative with hmark | hmark
    · exact absurd (mem_of_isInteger hinteger hmark) (by decide)
    · exact absurd (mem_of_isInteger hinteger hmark) (by decide)

/-- **The text of a value is a cell with that value.** -/
theorem writes_asText {cs : List Char} {v : Value} (h : Writes cs v) {s : String}
    (hs : v.asText = .ok s) : Writes s.toList v := by
  cases h with
  | integer h =>
    rw [asText_int, text_eq_ok_iff] at hs
    rw [hs.2, String.toList_ofList]
    have hwrites := Writes.integer (isInteger_integerChars (integerValue cs))
    rwa [integerValue_integerChars] at hwrites
  | float h =>
    rw [asText_float] at hs
    cases hs
    rw [Binary64.text, String.toList_ofList]
    exact .float (writesFloat_textChars h.2.2.2)
  | text hinteger hfloat =>
    cases hs
    rw [String.toList_ofList]
    exact .text hinteger hfloat

/-- Only the empty cell writes the empty text. -/
theorem eq_nil_of_writes {cs : List Char} (h : Writes cs (.text "")) : cs = [] := by
  generalize hv : Value.text "" = v at h
  cases h with
  | integer => cases hv
  | float => cases hv
  | text =>
    have hcs : "" = String.ofList cs := Value.text.inj hv
    rw [← String.toList_ofList (l := cs), ← hcs]
    rfl

/-! ### Trimmed texts -/

theorem isNumberChar_of_mem_integerChars {n : Int} {c : Char} (h : c ∈ Integer.chars n) :
    IsNumberChar c := by
  unfold Integer.chars Binary64.withSign at h
  split at h
  · rcases List.mem_cons.1 h with rfl | h
    · exact Or.inr (by decide)
    · exact Or.inl (isDigit_of_mem_natDigits h)
  · exact Or.inl (isDigit_of_mem_natDigits h)

/-- The text of the value of a trimmed cell is trimmed. -/
theorem trimmed_asText {cs : List Char} {v : Value} (htrimmed : Trimmed isSpace cs)
    (h : Writes cs v) {s : String} (hs : v.asText = .ok s) : Trimmed isSpace s.toList := by
  cases h with
  | integer h =>
    rw [asText_int, text_eq_ok_iff] at hs
    rw [hs.2, String.toList_ofList]
    exact trimmed_of_isNumberChar fun c hc => isNumberChar_of_mem_integerChars hc
  | float h =>
    rw [asText_float] at hs
    cases hs
    obtain ⟨negative, p, hp, -, hchars, -⟩ := Binary64.exists_parts_of_isFinite h.2.2.2
    rw [Binary64.text, String.toList_ofList, hchars]
    exact trimmed_of_isNumberChar fun c hc =>
      Json.NumberParts.isNumberChar_of_mem_withSign hp hc
  | text =>
    cases hs
    rwa [String.toList_ofList]

/-- The trimmed text of the value of a trimmed cell is what is left of the cell. -/
theorem trimmedText_of_cell {cs : List Char} {v : Value} (htrimmed : Trimmed isSpace cs)
    (h : cell cs = .ok v) : trimmedText v = .ok (keptText cs) := by
  have hwrites := writes_of_cell h
  obtain ⟨s, hs⟩ := exists_asText h
  have htrim : Text.trim s = s := by
    have hlist : Text.trimChars s.toList = s.toList :=
      Text.trimBy_of_trimmed (trimmed_asText htrimmed hwrites hs)
    rw [Text.trim, hlist, String.ofList_toList]
  unfold trimmedText
  split
  · cases hwrites
  · rw [hs]
    show Except.ok (Text.trim s) = Except.ok (keptText cs)
    rw [htrim, eq_keptText hwrites hs]

/-- Nothing is left of an empty cell only. -/
theorem keptText_eq_empty_iff {cs : List Char} {v : Value} (h : cell cs = .ok v) :
    keptText cs = "" ↔ cs = [] := by
  have hwrites := writes_of_cell h
  obtain ⟨s, hs⟩ := exists_asText h
  rw [← eq_keptText hwrites hs]
  constructor
  · rintro rfl
    have hempty : Writes [] v := writes_asText hwrites hs
    have hv : v = .text "" := hempty.unique (.text rfl not_writesFloat_nil)
    exact eq_nil_of_writes (hv ▸ hwrites)
  · rintro rfl
    have hv : v = .text "" := hwrites.unique (.text rfl not_writesFloat_nil)
    rw [hv] at hs
    cases hs
    rfl

/-- Cells of which the same is left write the same value. -/
theorem eq_of_keptText_eq {as bs : List Char} {v w : Value} (hv : cell as = .ok v)
    (hw : cell bs = .ok w) (h : keptText as = keptText bs) : v = w := by
  obtain ⟨s, hs⟩ := exists_asText hv
  obtain ⟨t, ht⟩ := exists_asText hw
  have hst : s = t := by
    rw [eq_keptText (writes_of_cell hv) hs, eq_keptText (writes_of_cell hw) ht, h]
  subst hst
  exact (writes_asText (writes_of_cell hv) hs).unique (writes_asText (writes_of_cell hw) ht)

end SpendingLedger.Statement

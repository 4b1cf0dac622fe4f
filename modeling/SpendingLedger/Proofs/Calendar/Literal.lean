import SpendingLedger.Calendar.Literal
import SpendingLedger.Proofs.Number.Spelling
import SpendingLedger.Proofs.Text.Words

/-!
# The spellings of a day

A day is spelled by its numbers in a fixed order, each in a fixed number of digits or padded with
zeros at will, in the digits of any script, with one mark between them and space around.  A text is
read as a day exactly if it spells that day, so each day has many spellings, and a spelling has one
day.  The form into which spellings are brought is one of them.

## Main definitions

* `DateLiteral.WritesNumber`, `DateLiteral.Writes` — how numbers and days are written.
* `DateLiteral.Spells` — the texts that spell a day.

## Main results

* `DateLiteral.read_eq_day_iff` — **what is read as a day are its spellings.**
* `DateLiteral.normalize_of_spells`, `DateLiteral.spells_iso` — the form of all spellings.
* `DateLiteral.normalize_normalize` — normalizing a second time changes nothing.
-/

namespace SpendingLedger

/-! ### Padded digits -/

namespace Date

theorem length_padded (width n : Nat) :
    (padded width n).length = max width (natDigits n).length := by
  unfold padded Text.padLeft
  rw [List.length_append, List.length_replicate]
  omega

theorem length_natDigits_le {width n : Nat} (hwidth : 0 < width) (hn : n < powerOfTen width) :
    (natDigits n).length ≤ width :=
  (Nat.length_toDigits_le_iff (by decide) hwidth).2 hn

/-- Digits are those of their value, padded to as many. -/
theorem eq_padded {cs : List Char} (h : ∀ c ∈ cs, c.isDigit = true) (hne : cs ≠ []) :
    cs = padded cs.length (digitsValue cs) := by
  have hlength : (padded cs.length (digitsValue cs)).length = cs.length := by
    rw [length_padded, Nat.max_eq_left (length_natDigits_digitsValue_le hne h)]
  exact eq_of_digitsValue_eq h (fun c => isDigit_of_mem_padLeft) hlength.symm
    (digitsValue_padLeft _ _).symm

theorem monthLength_le (year month : Nat) : monthLength year month ≤ 31 := by
  unfold monthLength
  split
  · split <;> omega
  all_goals omega

theorem le_of_monthLength_pos {year month : Nat} (h : 0 < monthLength year month) :
    month ≤ 12 := by
  unfold monthLength at h
  split at h <;> omega

/-- The numbers of a day have at most four, two and two digits. -/
theorem lt_powerOfTen (d : Date) :
    d.year < powerOfTen 4 ∧ d.month < powerOfTen 2 ∧ d.day < powerOfTen 2 := by
  obtain ⟨year, month, day, -, hyear, hday, hlast⟩ := d
  have hmonth := le_of_monthLength_pos (Nat.lt_of_lt_of_le hday hlast)
  have hlength := monthLength_le year month
  have hhundred : powerOfTen 2 = 100 := rfl
  have hthousands : powerOfTen 4 = 10000 := rfl
  rw [hhundred, hthousands]
  dsimp only
  omega

end Date

namespace DateLiteral

open Text (isSpace isDecimalDigit pieces)

/-! ### Spellings -/

/-- Whether digits of any script write `n`, padded with zeros to between `least` and `most` of
them. -/
def WritesNumber (least most n : Nat) (cs : List Char) : Prop :=
  ∃ width, least ≤ width ∧ width ≤ most ∧ commonDigits cs = Date.padded width n

/-- The ways to write a day without space around it. -/
inductive Writes (d : Date) : List Char → Prop
  | iso {y m n : List Char} (year : WritesNumber 4 4 d.year y) (month : WritesNumber 2 2 d.month m)
    (day : WritesNumber 2 2 d.day n) : Writes d (y ++ '-' :: (m ++ '-' :: n))
  | slashed {y m n : List Char} (month : WritesNumber 1 2 d.month m)
    (day : WritesNumber 1 2 d.day n) (year : WritesNumber 4 4 d.year y) :
    Writes d (m ++ '/' :: (n ++ '/' :: y))

/-- Whether `s` writes the day `d` with nothing but space around it. -/
def Spells (d : Date) (s : String) : Prop :=
  ∃ left core right, s.toList = left ++ (core ++ right) ∧ (∀ c ∈ left, isSpace c = true) ∧
    (∀ c ∈ right, isSpace c = true) ∧ Writes d core

variable {least most n : Nat} {cs y m : List Char} {d : Date} {s : String}

theorem WritesNumber.isDecimalDigit_of_mem (h : WritesNumber least most n cs) :
    ∀ c ∈ cs, isDecimalDigit c = true := by
  obtain ⟨width, -, -, heq⟩ := h
  intro c hc
  have hcommon : commonDigit c ∈ commonDigits cs := List.mem_map_of_mem hc
  rw [heq] at hcommon
  rw [← isDigit_commonDigit]
  exact isDigit_of_mem_padLeft hcommon

/-- A number of few enough digits is read from the digits that write it. -/
theorem writesNumber_iff (hleast : 0 < least) (hn : n < powerOfTen most) :
    WritesNumber least most n cs ↔
      isNumber least most cs = true ∧ digitsValue (commonDigits cs) = n := by
  have hlength : (commonDigits cs).length = cs.length := List.length_map _
  unfold isNumber
  rw [Bool.and_eq_true, Bool.and_eq_true, decide_eq_true_eq, decide_eq_true_eq]
  constructor
  · intro h
    have hdigits := List.all_eq_true.2 h.isDecimalDigit_of_mem
    obtain ⟨width, hle, hge, heq⟩ := h
    have hmost := Date.length_natDigits_le (by omega) hn
    have hpadded := Date.length_padded width n
    rw [← heq, hlength] at hpadded
    refine ⟨⟨⟨hdigits, by omega⟩, by omega⟩, ?_⟩
    rw [heq]
    exact digitsValue_padLeft width n
  · rintro ⟨⟨⟨hdigits, hle⟩, hge⟩, rfl⟩
    have hne : commonDigits cs ≠ [] := List.length_pos_iff.1 (by omega)
    have heq := Date.eq_padded (fun c => isDigit_of_mem_commonDigits hdigits) hne
    rw [hlength] at heq
    exact ⟨cs.length, hle, hge, heq⟩

/-- A day is made of three numbers that write it, whether or not months and days are padded. -/
theorem numbers_iff (hleast : 0 < least) :
    (isNumber 4 4 y = true ∧ isNumber least 2 m = true ∧ isNumber least 2 cs = true ∧
        ofDigits y m cs = .day d) ↔
      WritesNumber 4 4 d.year y ∧ WritesNumber least 2 d.month m ∧
        WritesNumber least 2 d.day cs := by
  obtain ⟨hyear, hmonth, hday⟩ := d.lt_powerOfTen
  have hof : ofDigits y m cs = .day d ↔ Date.of? (digitsValue (commonDigits y))
      (digitsValue (commonDigits m)) (digitsValue (commonDigits cs)) = some d := by
    unfold ofDigits
    dsimp only
    cases Date.of? (digitsValue (commonDigits y)) (digitsValue (commonDigits m))
      (digitsValue (commonDigits cs)) <;> simp
  rw [writesNumber_iff (by decide) hyear, writesNumber_iff hleast hmonth,
    writesNumber_iff hleast hday, hof, Date.of?_eq_some_iff]
  constructor
  · rintro ⟨hy, hm, hn, hyear, hmonth, hday⟩
    exact ⟨⟨hy, hyear.symm⟩, ⟨hm, hmonth.symm⟩, hn, hday.symm⟩
  · rintro ⟨⟨hy, hyear⟩, ⟨hm, hmonth⟩, hn, hday⟩
    exact ⟨hy, hm, hn, hyear.symm, hmonth.symm, hday.symm⟩

/-! ### The two forms -/

/-- No mark stands in a number. -/
theorem WritesNumber.not_mem (h : WritesNumber least most n cs) {mark : Char}
    (hmark : isDecimalDigit mark = false) : mark ∉ cs := by
  intro hmem
  rw [h.isDecimalDigit_of_mem mark hmem] at hmark
  cases hmark

theorem readIso_eq_day_iff :
    readIso cs = .day d ↔ ∃ y m n, cs = y ++ '-' :: (m ++ '-' :: n) ∧
      WritesNumber 4 4 d.year y ∧ WritesNumber 2 2 d.month m ∧ WritesNumber 2 2 d.day n := by
  unfold readIso
  constructor
  · intro h
    split at h
    · next y m n hpieces =>
      split at h
      · next hnumbers =>
        rw [Bool.and_eq_true, Bool.and_eq_true, and_assoc] at hnumbers
        refine ⟨y, m, n, (Text.pieces_eq_iff.1 hpieces).1, (numbers_iff (by decide)).1 ?_⟩
        exact ⟨hnumbers.1, hnumbers.2.1, hnumbers.2.2, h⟩
      · cases h
    · cases h
  · rintro ⟨y, m, n, hcs, hwrites⟩
    obtain ⟨hy, hm, hn⟩ := hwrites
    rw [Text.pieces_eq_iff.2 ⟨hcs, hy.not_mem (by decide), hm.not_mem (by decide),
      hn.not_mem (by decide)⟩]
    obtain ⟨hynum, hmnum, hnnum, hday⟩ := (numbers_iff (by decide)).2 ⟨hy, hm, hn⟩
    dsimp only
    rw [hynum, hmnum, hnnum]
    exact hday

theorem readSlashed_eq_day_iff :
    readSlashed cs = .day d ↔ ∃ y m n, cs = m ++ '/' :: (n ++ '/' :: y) ∧
      WritesNumber 4 4 d.year y ∧ WritesNumber 1 2 d.month m ∧ WritesNumber 1 2 d.day n := by
  unfold readSlashed
  constructor
  · intro h
    split at h
    · next m n y hpieces =>
      split at h
      · next hnumbers =>
        rw [Bool.and_eq_true, Bool.and_eq_true, and_assoc] at hnumbers
        refine ⟨y, m, n, (Text.pieces_eq_iff.1 hpieces).1, (numbers_iff (by decide)).1 ?_⟩
        exact ⟨hnumbers.2.2, hnumbers.1, hnumbers.2.1, h⟩
      · cases h
    · cases h
  · rintro ⟨y, m, n, hcs, hwrites⟩
    obtain ⟨hy, hm, hn⟩ := hwrites
    rw [Text.pieces_eq_iff.2 ⟨hcs, hm.not_mem (by decide), hn.not_mem (by decide),
      hy.not_mem (by decide)⟩]
    obtain ⟨hynum, hmnum, hnnum, hday⟩ := (numbers_iff (by decide)).2 ⟨hy, hm, hn⟩
    dsimp only
    rw [hynum, hmnum, hnnum]
    exact hday

/-! ### Texts -/

/-- A day is written with digits and marks. -/
theorem Writes.mem_cases (h : Writes d cs) :
    ∀ c ∈ cs, isDecimalDigit c = true ∨ c = '-' ∨ c = '/' := by
  cases h with
  | iso year month day =>
    intro c hc
    simp only [List.mem_append, List.mem_cons] at hc
    rcases hc with hc | rfl | hc | rfl | hc
    · exact Or.inl (year.isDecimalDigit_of_mem c hc)
    · exact Or.inr (Or.inl rfl)
    · exact Or.inl (month.isDecimalDigit_of_mem c hc)
    · exact Or.inr (Or.inl rfl)
    · exact Or.inl (day.isDecimalDigit_of_mem c hc)
  | slashed month day year =>
    intro c hc
    simp only [List.mem_append, List.mem_cons] at hc
    rcases hc with hc | rfl | hc | rfl | hc
    · exact Or.inl (month.isDecimalDigit_of_mem c hc)
    · exact Or.inr (Or.inr rfl)
    · exact Or.inl (day.isDecimalDigit_of_mem c hc)
    · exact Or.inr (Or.inr rfl)
    · exact Or.inl (year.isDecimalDigit_of_mem c hc)

theorem Writes.ne_nil (h : Writes d cs) : cs ≠ [] := by
  cases h <;> simp

theorem Writes.isSpace_of_mem (h : Writes d cs) : ∀ c ∈ cs, isSpace c = false := by
  intro c hc
  rcases h.mem_cases c hc with hdigit | rfl | rfl
  · exact isSpace_of_isDecimalDigit hdigit
  · decide
  · decide

theorem readChars_eq_day_iff : readChars cs = .day d ↔ Writes d cs := by
  unfold readChars
  constructor
  · intro h
    split at h
    · obtain ⟨y, m, n, rfl, hy, hm, hn⟩ := readSlashed_eq_day_iff.1 h
      exact .slashed hm hn hy
    · obtain ⟨y, m, n, rfl, hy, hm, hn⟩ := readIso_eq_day_iff.1 h
      exact .iso hy hm hn
  · intro h
    cases h with
    | iso year month day =>
      rw [readIso_eq_day_iff.2 ⟨_, _, _, rfl, year, month, day⟩]
    | @slashed y m n month day year =>
      -- without a dash the text is one piece for the other form
      have hdash : ∀ c ∈ m ++ '/' :: (n ++ '/' :: y), (c == '-') = false := by
        intro c hc
        rw [beq_eq_false_iff_ne]
        rintro rfl
        simp only [List.mem_append, List.mem_cons] at hc
        rcases hc with hc | hc | hc | hc | hc
        · exact month.not_mem (by decide) hc
        · cases hc
        · exact day.not_mem (by decide) hc
        · cases hc
        · exact year.not_mem (by decide) hc
      have hother : readIso (m ++ '/' :: (n ++ '/' :: y)) = .otherText := by
        unfold readIso
        rw [Text.pieces_of_forall hdash]
      rw [hother]
      exact readSlashed_eq_day_iff.2 ⟨y, m, n, rfl, year, month, day⟩

/-- **What is read as a day are its spellings.** -/
theorem read_eq_day_iff : read s = .day d ↔ Spells d s := by
  unfold read
  rw [readChars_eq_day_iff]
  constructor
  · intro h
    obtain ⟨left, right, hs, hleft, hright⟩ := Text.exists_trimBy isSpace s.toList
    exact ⟨left, Text.trimChars s.toList, right, hs, hleft, hright, h⟩
  · rintro ⟨left, core, right, hs, hleft, hright, h⟩
    have hcore : Text.Trimmed isSpace core :=
      ⟨fun c hc => h.isSpace_of_mem c (List.mem_of_mem_head? hc),
        fun c hc => h.isSpace_of_mem c (List.mem_of_getLast? hc)⟩
    rw [Text.trimChars, hs, Text.trimBy_append_left hleft,
      Text.trimBy_append_of_trimmed hcore hright]
    exact h

theorem read_trim (s : String) : read (Text.trim s) = read s := by
  unfold read
  rw [← Text.toList_trim, Text.trim_trim, Text.toList_trim]

/-! ### The common form -/

theorem writesNumber_padded {width : Nat} (hleast : least ≤ width) (hmost : width ≤ most) :
    WritesNumber least most n (Date.padded width n) := by
  refine ⟨width, hleast, hmost, commonDigits_eq_self fun c hc => Or.inl ?_⟩
  exact isDigit_of_mem_padLeft hc

/-- The form of a day is a spelling of it. -/
theorem spells_iso (d : Date) : Spells d d.iso := by
  refine ⟨[], d.isoChars, [], by simp [Date.iso], by simp, by simp, ?_⟩
  unfold Date.isoChars
  rw [List.append_assoc, List.cons_append]
  have hnumber : ∀ width n, WritesNumber width width n (Date.padded width n) := fun width n =>
    writesNumber_padded (Nat.le_refl width) (Nat.le_refl width)
  exact .iso (hnumber 4 _) (hnumber 2 _) (hnumber 2 _)

/-- All spellings of a day are brought to one form. -/
theorem normalize_of_spells (h : Spells d s) : normalize s = d.iso := by
  unfold normalize
  rw [read_eq_day_iff.2 h]

example : normalize " 1/5/2025" = "2025-01-05" := by decide

/-- A text that spells no day is trimmed only. -/
theorem normalize_cases (s : String) :
    (∃ d, Spells d s ∧ normalize s = d.iso) ∨
      ((∀ d, ¬Spells d s) ∧ normalize s = Text.trim s) := by
  unfold normalize
  split
  · next d hread => exact Or.inl ⟨d, read_eq_day_iff.1 hread, rfl⟩
  · next hother => exact Or.inr ⟨fun d hd => hother d (read_eq_day_iff.2 hd), rfl⟩

/-- What a text is as a literal is what its normalized form is. -/
theorem read_normalize (s : String) : read (normalize s) = read s := by
  rcases normalize_cases s with ⟨d, hspells, heq⟩ | ⟨-, heq⟩
  · rw [heq, read_eq_day_iff.2 hspells, read_eq_day_iff.2 (spells_iso d)]
  · rw [heq, read_trim]

/-- Normalizing a second time changes nothing. -/
theorem normalize_normalize (s : String) : normalize (normalize s) = normalize s := by
  rcases normalize_cases s with ⟨d, -, heq⟩ | ⟨hnone, heq⟩
  · rw [heq, normalize_of_spells (spells_iso d)]
  · rcases normalize_cases (normalize s) with ⟨d, hspells, -⟩ | ⟨-, htwice⟩
    · rw [← read_eq_day_iff, read_normalize, read_eq_day_iff] at hspells
      exact absurd hspells (hnone d)
    · rw [htwice, heq, Text.trim_trim]

/-- The date of a value is normalized, so it stays as it is. -/
theorem ofValue_bind_ofValue (v : Value) :
    ((ofValue v).bind fun s => ofValue (.text s)) = ofValue v := by
  have hmap : ∀ r : Except Integer.TooLong String,
      ((r.map normalize).bind fun s => .ok (normalize s)) = r.map normalize := by
    intro r
    cases r with
    | error e => rfl
    | ok s => exact congrArg Except.ok (normalize_normalize s)
  by_cases hnull : v = .null
  · rw [hnull]
    rfl
  · have htext : ofValue v = v.asText.map normalize := by
      unfold ofValue
      split
      · exact absurd rfl hnull
      · rfl
    rw [htext]
    exact hmap v.asText

end DateLiteral

end SpendingLedger

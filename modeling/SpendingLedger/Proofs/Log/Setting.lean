import SpendingLedger.Log.Setting
import SpendingLedger.Proofs.Text.Upper

/-!
# What asks for a level

A word asks for a level if it writes a number in decimal digits or is the name of a level, and most
other words ask for none.  But a word of digits that write no number stops everything where it is
read, the argument always and the variable when the argument asks for nothing.  Such words have
superscripts or other digits that stand in no positional system, or more digits than are read.

## Main definitions

* `Level.names` — the names of levels.
* `Level.WordAsks`, `Level.IsUnreadable` — the words that ask for a level, and those that no level
  comes of.
* `Level.Asks`, `Level.Stops`, `Level.IsSilent` — the same for arguments of any kind.

## Main results

* `Level.ofWord?_eq_some_iff`, `Level.ofWord?_eq_error_iff` — what is made of a word.
* `Level.resolve_eq_iff` — **when there is a level, which one, and when there is none.**
-/

namespace SpendingLedger.Level

/-! ### Words -/

/-- The names of levels. -/
def names : List (String × Level) :=
  [("CRITICAL", critical), ("FATAL", critical), ("ERROR", error), ("WARNING", warning),
    ("WARN", warning), ("INFO", info), ("DEBUG", debug), ("NOTSET", 0)]

/-- What is left of a word without space at its ends. -/
def core (word : String) : List Char := Text.trimChars word.toList

/-- Whether a word asks for a level, space at its ends and case apart: by a number in decimal digits
of any script, of which it has no more than are read, or by a name. -/
inductive WordAsks (word : String) : Level → Prop
  | number (hne : core word ≠ []) (hdigits : ∀ c ∈ core word, Text.isDecimalDigit c = true)
    (hlimit : (core word).length ≤ Integer.digitLimit) :
    WordAsks word (digitsValue (commonDigits (core word)))
  | name {level : Level} (hname : (Text.upper (Text.trim word), level) ∈ names) :
    WordAsks word level

/-- Whether a word is made of digits that write no number: some are no decimal digits, or there are
more of them than are read. -/
structure IsUnreadable (word : String) : Prop where
  ne_nil : core word ≠ []
  digits : ∀ c ∈ core word, Text.isDigit c = true
  fault : (∃ c ∈ core word, Text.isDecimalDigit c = false) ∨
    Integer.digitLimit < (core word).length

variable {word : String} {level : Level}

theorem ofName?_eq_some_iff {s : String} : ofName? s = some level ↔ (s, level) ∈ names := by
  constructor
  · intro h
    unfold ofName? at h
    split at h
    · next hs => cases h; rcases hs with rfl | rfl <;> decide
    split at h
    · next hs => cases h; subst hs; decide
    split at h
    · next hs => cases h; rcases hs with rfl | rfl <;> decide
    split at h
    · next hs => cases h; subst hs; decide
    split at h
    · next hs => cases h; subst hs; decide
    split at h
    · next hs => cases h; subst hs; decide
    · cases h
  · have hall : ∀ p ∈ names, ofName? p.1 = some p.2 := by decide
    exact hall (s, level)

theorem isDigit_of_isDecimalDigit {c : Char} (h : Text.isDecimalDigit c = true) :
    Text.isDigit c = true := by
  rw [Text.isDigit, h, Bool.true_or]

/-- No name is made of digits. -/
theorem not_digits_of_name (h : (Text.upper (Text.trim word), level) ∈ names) :
    ¬∀ c ∈ core word, Text.isDigit c = true := by
  have hall : ∀ p ∈ names, p.1.toList.all Text.isDigit = false := by decide
  have hname := Bool.eq_false_iff.1 (hall _ h)
  rwa [Ne, List.all_eq_true, Text.toList_upper, Text.toList_trim,
    Text.forall_isDigit_upperChars_iff] at hname

theorem ofWord?_of_core_eq_nil (h : core word = []) : ofWord? word = .ok none := by
  unfold ofWord?
  rw [← core, h]
  rfl

theorem ofWord?_of_not_digits (h : ¬∀ c ∈ core word, Text.isDigit c = true) :
    ofWord? word = .ok (ofName? (Text.upper (Text.trim word))) := by
  have hne : Text.upperChars (core word) ≠ [] := by
    rw [Ne, Text.upperChars_eq_nil_iff]
    intro hnil
    exact h (by simp [hnil])
  have hdigits : (Text.upperChars (core word)).all Text.isDigit ≠ true := by
    rwa [Ne, List.all_eq_true, Text.forall_isDigit_upperChars_iff]
  unfold ofWord?
  dsimp only
  rw [← core, if_neg (by simpa using hne), if_neg hdigits, Text.upper, Text.toList_trim, ← core]

/-- Digits without a sign are read unless there are too many. -/
theorem ofDigits_false (digits : List Char) :
    Integer.ofDigits false digits =
      if digits.length ≤ Integer.digitLimit then .ok (digitsValue digits)
      else .error ⟨digits.length⟩ := by
  unfold Integer.ofDigits
  by_cases hlimit : digits.length ≤ Integer.digitLimit
  · rw [if_neg (Nat.not_lt.2 hlimit), if_pos hlimit]
    rfl
  · rw [if_pos (Nat.lt_of_not_le hlimit), if_neg hlimit]

/-- Digits have no case, so a word of them is read as it is. -/
theorem ofWord?_of_digits (hne : core word ≠ []) (h : ∀ c ∈ core word, Text.isDigit c = true) :
    ofWord? word =
      if (core word).all Text.isDecimalDigit = true ∧
          (core word).length ≤ Integer.digitLimit then
        .ok (some (digitsValue (commonDigits (core word))))
      else .error ⟨Text.trim word⟩ := by
  have hlength : (commonDigits (core word)).length = (core word).length := List.length_map _
  have hvalue := ofDigits_false (commonDigits (core word))
  rw [hlength] at hvalue
  unfold ofWord?
  dsimp only
  rw [← core, Text.upperChars_of_isDigit h, if_neg (by simpa using hne),
    if_pos (List.all_eq_true.2 h)]
  by_cases hdecimal : (core word).all Text.isDecimalDigit = true
  · rw [if_pos hdecimal, hvalue]
    by_cases hlimit : (core word).length ≤ Integer.digitLimit
    · rw [if_pos hlimit, if_pos ⟨hdecimal, hlimit⟩]
    · rw [if_neg hlimit, if_neg fun h => hlimit h.2]
      rfl
  · rw [if_neg hdecimal, if_neg fun h => hdecimal h.1]
    rfl

/-- A word has a level exactly if it asks for it. -/
theorem ofWord?_eq_some_iff : ofWord? word = .ok (some level) ↔ WordAsks word level := by
  constructor
  · intro h
    by_cases hnil : core word = []
    · rw [ofWord?_of_core_eq_nil hnil] at h
      cases h
    by_cases hdigits : ∀ c ∈ core word, Text.isDigit c = true
    · rw [ofWord?_of_digits hnil hdigits] at h
      split at h
      · next hread =>
        cases h
        exact .number hnil (List.all_eq_true.1 hread.1) hread.2
      · cases h
    · rw [ofWord?_of_not_digits hdigits] at h
      exact .name (ofName?_eq_some_iff.1 (Except.ok.inj h))
  · intro h
    cases h with
    | number hne hdigits hlimit =>
      rw [ofWord?_of_digits hne fun c hc => isDigit_of_isDecimalDigit (hdigits c hc),
        if_pos ⟨List.all_eq_true.2 hdigits, hlimit⟩]
    | name hname =>
      rw [ofWord?_of_not_digits (not_digits_of_name hname), ofName?_eq_some_iff.2 hname]

/-- A word stops everything exactly if it is made of digits that write no number. -/
theorem ofWord?_eq_error_iff {e : BadDigits} :
    ofWord? word = .error e ↔ IsUnreadable word ∧ e = ⟨Text.trim word⟩ := by
  constructor
  · intro h
    by_cases hnil : core word = []
    · rw [ofWord?_of_core_eq_nil hnil] at h
      cases h
    by_cases hdigits : ∀ c ∈ core word, Text.isDigit c = true
    · rw [ofWord?_of_digits hnil hdigits] at h
      split at h
      · cases h
      · next hread =>
        refine ⟨⟨hnil, hdigits, ?_⟩, (Except.error.inj h).symm⟩
        rw [not_and_or, Nat.not_le] at hread
        refine hread.imp_left fun hnot => ?_
        simpa using hnot
    · rw [ofWord?_of_not_digits hdigits] at h
      cases h
  · rintro ⟨⟨hne, hdigits, hfault⟩, rfl⟩
    rw [ofWord?_of_digits hne hdigits, if_neg]
    rintro ⟨hdecimal, hlimit⟩
    rcases hfault with ⟨c, hc, hnot⟩ | hlong
    · rw [List.all_eq_true.1 hdecimal c hc] at hnot
      cases hnot
    · exact absurd hlimit (Nat.not_le.2 hlong)

/-! ### Arguments -/

/-- Whether an argument asks for a level: an integer for itself, and a text as a word. -/
def Asks : Value → Level → Prop
  | .int n, level => level = n
  | .bool b, level => level = if b then 1 else 0
  | .text s, level => WordAsks s level
  | _, _ => False

/-- Whether an argument is a text of digits that write no number. -/
def Stops : Value → BadDigits → Prop
  | .text s, e => IsUnreadable s ∧ e = ⟨Text.trim s⟩
  | _, _ => False

/-- Whether an argument neither asks for a level nor stops everything. -/
def IsSilent (value : Value) : Prop :=
  (∀ level, ¬Asks value level) ∧ ∀ e, ¬Stops value e

variable {value : Value} {e : BadDigits}

theorem ofValue?_eq_some_iff : ofValue? value = .ok (some level) ↔ Asks value level := by
  cases value with
  | text s => exact ofWord?_eq_some_iff
  | int n | bool b => simp [ofValue?, Asks, eq_comm]
  | _ => simp [ofValue?, Asks]

theorem ofValue?_eq_error_iff : ofValue? value = .error e ↔ Stops value e := by
  cases value with
  | text s => exact ofWord?_eq_error_iff
  | _ => simp [ofValue?, Stops]

theorem ofValue?_eq_none_iff : ofValue? value = .ok none ↔ IsSilent value := by
  unfold IsSilent
  simp only [← ofValue?_eq_some_iff, ← ofValue?_eq_error_iff]
  cases ofValue? value with
  | error e => simp
  | ok level => cases level <;> simp

/-- **When there is a level, which one, and when there is none.**  The level is the one that the
argument asks for; else, if the argument is silent, the one that the variable asks for; else, if
both are silent, that of warnings.  There is no level exactly if the argument is a word of digits
that write no number, or if it is silent and the variable is such a word. -/
theorem resolve_eq_iff (argument : Value) (env : Option String) :
    let setting := env.elim .null .text
    (∀ level, resolve argument env = .ok level ↔
      Asks argument level ∨
        (IsSilent argument ∧
          (Asks setting level ∨ (IsSilent setting ∧ level = warning)))) ∧
    ∀ e, resolve argument env = .error e ↔
      Stops argument e ∨ (IsSilent argument ∧ Stops setting e) := by
  intro setting
  simp only [← ofValue?_eq_some_iff, ← ofValue?_eq_none_iff, ← ofValue?_eq_error_iff]
  unfold resolve
  rcases ofValue? argument with e | _ | level
  · simp
  · -- the argument is silent, so the variable decides
    rcases ofValue? setting with e | _ | level
    · simp
    · simp [eq_comm]
    · simp
  · simp

/-- A superscript as the argument has no level, whatever the variable asks for, and a superscript as
the variable has none when there is no argument. -/
theorem not_resolve_of_superscript :
    resolve (.text "²") none = .error ⟨"²"⟩ ∧ resolve (.text "²") (some "INFO") = .error ⟨"²"⟩ ∧
      resolve .null (some "²") = .error ⟨"²"⟩ := by
  decide +kernel

end SpendingLedger.Level

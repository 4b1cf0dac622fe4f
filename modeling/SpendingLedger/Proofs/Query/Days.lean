import SpendingLedger.Proofs.Calendar.Literal
import SpendingLedger.Proofs.Query.Comparison

/-!
# Days in queries

A text is read as a day by the form of its spelling, and failing that in other ways; normalizing it
first changes neither the day nor that there is none.  So dates are compared by their days, however
they are spelled in the ledger and in the query, and days are compared in the order of their year,
month and day.

A text with too many digits for a number is not refused as a date that is not recognized.

## Main definitions

* `Date.Before` — the order of days.
* `ReadAlike` — whether two texts are read as the same day, or both as none.
* `Comparator.relations`, `Comparator.Orders` — the comparators for dates and their meaning.

## Main results

* `readAlike_normalize` — a text is read like its normalized form.
* `evalTerm_of_spells` — a comparison of spellings compares their days.
* `days_of_spellings` — **dates mean the same in every spelling.**
-/

namespace SpendingLedger

/-! ### The order of days -/

namespace Date

/-- Whether `a` comes before `b`. -/
def Before (a b : Date) : Prop :=
  a.year < b.year ∨ (a.year = b.year ∧ (a.month < b.month ∨ (a.month = b.month ∧ a.day < b.day)))

variable {a b : Date}

@[simp] theorem order_eq_lt_iff : a.order b = .lt ↔ a.Before b := by
  simp only [order, Before, Ordering.then_eq_lt, Nat.compare_eq_lt, Nat.compare_eq_eq]

@[simp] theorem order_eq_gt_iff : a.order b = .gt ↔ b.Before a := by
  simp only [order, Before, Ordering.then_eq_gt, Nat.compare_eq_gt, Nat.compare_eq_eq]
  omega

@[simp] theorem order_eq_eq_iff : a.order b = .eq ↔ a = b := by
  cases a
  cases b
  simp [order]

end Date

namespace Query

open DateLiteral (Spells Writes normalize)

/-! ### Reading days -/

/-- Whether two texts are read as the same day, or both are refused as dates that are not
recognized, or the reading of both is cut short because of too many digits. -/
inductive ReadAlike (today : Date) (s s' : String) : Prop
  | day (d : Date) (h : day today s = .ok d) (h' : day today s' = .ok d)
  | unrecognized (h : day today s = .error (.unrecognizedDate s))
    (h' : day today s' = .error (.unrecognizedDate s'))
  | overlong (hdigits : Calendar.FreeForm.parse today (Text.trim s) = .error .tooManyDigits)
    (h : day today s = .error (.overlongDate s)) (h' : day today s' = .error (.overlongDate s'))

variable {today a b : Date} {term s : String} {t : Transaction} {c : Comparison}

theorem day_of_spells (h : Spells a s) : day today s = .ok a := by
  unfold day
  rw [DateLiteral.read_eq_day_iff.2 h]

/-- A text is read like its normalized form. -/
theorem readAlike_normalize (today : Date) (s : String) : ReadAlike today s (normalize s) := by
  have hsame := DateLiteral.read_normalize s
  cases hread : DateLiteral.read s with
  | day d =>
    rw [hread] at hsame
    exact .day d (by simp only [day, hread]) (by simp only [day, hsame])
  | impossible =>
    rw [hread] at hsame
    exact .unrecognized (by simp only [day, hread]) (by simp only [day, hsame])
  | otherText =>
    rw [hread] at hsame
    have htrim : Text.trim (normalize s) = Text.trim s := by
      rw [DateLiteral.normalize, hread]
      exact Text.trim_trim s
    -- what is no literal is read in other ways, of which the trimmed text is all that counts
    cases hparse : Calendar.FreeForm.parse today (Text.trim s) with
    | ok d =>
      exact .day d (by simp only [day, hread, hparse]) (by simp only [day, hsame, htrim, hparse])
    | error e =>
      cases e with
      | noDate =>
        exact .unrecognized (by simp only [day, hread, hparse])
          (by simp only [day, hsame, htrim, hparse])
      | tooManyDigits =>
        exact .overlong hparse (by simp only [day, hread, hparse])
          (by simp only [day, hsame, htrim, hparse])

/-! ### Comparing days -/

namespace Comparator

/-- The comparators for dates. -/
def relations : List Comparator := [.less, .atMost, .greater, .atLeast, .equals, .differs]

/-- What a comparator for dates says of two days. -/
def Orders (a b : Date) : Comparator → Prop
  | .less => a.Before b
  | .atMost => a.Before b ∨ a = b
  | .greater => b.Before a
  | .atLeast => b.Before a ∨ a = b
  | .equals => a = b
  | .differs => a ≠ b
  | _ => False

/-- The comparators for dates compare in the order of days. -/
theorem onDates?_of_mem {op : Comparator} (hop : op ∈ relations) :
    ∃ holds, op.onDates? = some holds ∧ ∀ a b, holds a b = true ↔ op.Orders a b := by
  cases op with
  | less => exact ⟨_, rfl, fun a b => by simp [Orders]⟩
  | atMost => exact ⟨_, rfl, fun a b => by simp [Orders, Ordering.isLE_iff_eq_lt_or_eq_eq]⟩
  | greater => exact ⟨_, rfl, fun a b => by simp [Orders]⟩
  | atLeast => exact ⟨_, rfl, fun a b => by simp [Orders, Ordering.isGE_iff_eq_gt_or_eq_eq]⟩
  | equals => exact ⟨_, rfl, fun a b => by simp [Orders]⟩
  | differs => exact ⟨_, rfl, fun a b => by simp [Orders]⟩
  | startsWith => exact absurd hop (by decide)
  | endsWith => exact absurd hop (by decide)
  | contains => exact absurd hop (by decide)

end Comparator

theorem evalTerm_of_spells (hread : Comparison.ofText? term = some c)
    (hfield : Text.lower c.field = "date") (hop : c.comparator ∈ Comparator.relations)
    (ha : Spells a t.date) (hb : Spells b c.value) :
    ∃ r, evalTerm today term t = .ok r ∧ (r = true ↔ c.comparator.Orders a b) := by
  obtain ⟨holds, hholds, hiff⟩ := Comparator.onDates?_of_mem hop
  have hvalue : Spells b (Text.trim c.value) := by
    rw [← DateLiteral.read_eq_day_iff, DateLiteral.read_trim]
    exact DateLiteral.read_eq_day_iff.2 hb
  refine ⟨holds a b, ?_, hiff a b⟩
  unfold evalTerm
  rw [hread]
  dsimp only
  unfold Comparison.eval
  dsimp only
  rw [hfield, if_neg (by decide), if_pos rfl, dateCondition, hholds]
  dsimp only
  rw [day_of_spells ha, day_of_spells hvalue]
  rfl

/-! ### Written comparisons -/

/-- What writes a day is read as the value that it is written as. -/
theorem ofText?_of_writes {field value : String}
    (hletters : ∀ x ∈ field.toList, Comparison.isFieldChar x = true) (hfield : field ≠ "")
    (op : Comparator) (hvalue : Writes b value.toList) :
    Comparison.ofText? (field ++ op.text ++ value) = some ⟨field, op, value⟩ := by
  have hspace : ∀ x ∈ (field ++ op.text ++ value).toList, Text.isSpace x = false :=
    Comparison.isSpace_of_mem_text (c := ⟨field, op, value⟩) hletters hvalue.isSpace_of_mem
  have hne : value ≠ "" := by
    rintro rfl
    exact hvalue.ne_nil rfl
  have hsplits : (⟨field, op, value⟩ : Comparison).Splits (field ++ op.text ++ value) :=
    ⟨hfield, hletters, hne, rfl⟩
  refine (hsplits.ofText?_iff hspace).2 ?_
  -- no sign of equality stands in a day
  rintro ⟨-, x, rest, hequals⟩
  have hmem : '=' ∈ value.toList := by
    rw [hequals]
    exact List.mem_cons_self
  rcases hvalue.mem_cases '=' hmem with hdigit | hmark | hmark
  · exact absurd hdigit (by decide)
  · cases hmark
  · cases hmark

/-- **Dates mean the same in every spelling.**  Normalizing the date of a value a second time
changes nothing.  A text is read like its normalized form: as the same day, or both are refused, or
the reading of both is cut short.  All spellings of a day have one normalized form and are read as
that day.  And a term that compares the date of a transaction with a day is read as it is written,
and says how the two days follow each other. -/
theorem days_of_spellings (today : Date) :
    (∀ v, ((DateLiteral.ofValue v).bind fun s => DateLiteral.ofValue (.text s)) =
        DateLiteral.ofValue v) ∧
      (∀ s, ReadAlike today s (normalize s)) ∧
      (∀ d s, Spells d s → normalize s = d.iso ∧ day today s = .ok d) ∧
      (∀ field op value b, (∀ x ∈ field.toList, Comparison.isFieldChar x = true) → field ≠ "" →
        Writes b value.toList →
          Comparison.ofText? (field ++ op.text ++ value) = some ⟨field, op, value⟩) ∧
      ∀ term c t a b, Comparison.ofText? term = some c → Text.lower c.field = "date" →
        c.comparator ∈ Comparator.relations → Spells a t.date → Spells b c.value →
          ∃ r, evalTerm today term t = .ok r ∧ (r = true ↔ c.comparator.Orders a b) := by
  refine ⟨DateLiteral.ofValue_bind_ofValue, readAlike_normalize today, ?_, ?_, ?_⟩
  · intro d s hspells
    exact ⟨DateLiteral.normalize_of_spells hspells, day_of_spells hspells⟩
  · intro field op value b hletters hfield hvalue
    exact ofText?_of_writes hletters hfield op hvalue
  · intro term c t a b hread hfield hop ha hb
    exact evalTerm_of_spells hread hfield hop ha hb

/-- The last day of January 2025. -/
def lastOfJanuary : Date := ⟨2025, 1, 31, by decide⟩

/-- The fifth day of February 2025. -/
def fifthOfFebruary : Date := ⟨2025, 2, 5, by decide⟩

/-- A day with space around it is compared with a later one in other digits. -/
theorem days_of_spellings_two_scripts :
    Spells lastOfJanuary " 1/31/2025\n" ∧ Spells fifthOfFebruary "٢٠٢٥-٠٢-٠٥" ∧
      evalTerm fifthOfFebruary "Date<٢٠٢٥-٠٢-٠٥"
        { id := "1", date := " 1/31/2025\n", description := none, amount := .zero } =
          .ok true := by
  have ha : Spells lastOfJanuary " 1/31/2025\n" := DateLiteral.read_eq_day_iff.1 (by decide)
  have hb : Spells fifthOfFebruary "٢٠٢٥-٠٢-٠٥" := DateLiteral.read_eq_day_iff.1 (by decide)
  refine ⟨ha, hb, ?_⟩
  obtain ⟨-, -, -, -, hterms⟩ := days_of_spellings fifthOfFebruary
  obtain ⟨r, heval, hr⟩ := hterms "Date<٢٠٢٥-٠٢-٠٥" ⟨"Date", .less, "٢٠٢٥-٠٢-٠٥"⟩
    { id := "1", date := " 1/31/2025\n", description := none, amount := .zero } _ _
    (by decide +kernel) (by decide +kernel) (by decide) ha hb
  have hbefore : lastOfJanuary.Before fifthOfFebruary := Or.inr ⟨rfl, Or.inl (by decide)⟩
  rw [heval, hr.2 hbefore]

/-- A text with minutes of forty digits. -/
def overlongDate : String :=
  "1:9999999999999999999999999999999999999999"

/-- A text with too many digits is not refused as a date that is not recognized. -/
theorem day_overlongDate :
    day fifthOfFebruary overlongDate = .error (.overlongDate overlongDate) ∧
      day fifthOfFebruary (normalize overlongDate) = .error (.overlongDate overlongDate) ∧
      (QueryError.invalid (.overlongDate overlongDate)).isReported = false := by
  refine ⟨by decide +kernel, by decide +kernel, rfl⟩

end Query

end SpendingLedger

import SpendingLedger.Proofs.Statement.Load

/-!
# The columns of a statement

A row has a value under every name of the header, however many cells its record has, so the names of
a row are those of the header.  The columns are looked for in the first row: a statement with a row
is refused exactly if its header lacks a required column, and then for just the columns that the
header lacks.  A header without rows is not looked at, and gives a statement of nothing.

## Main definitions

* `Statement.absentColumns` — the required columns that a header lacks.

## Main results

* `Statement.missingColumns_of_row` — the columns that a row lacks are those that the header lacks.
* `Statement.load_eq_missingColumns_iff` — **the statements that are refused for their columns.**
-/

namespace SpendingLedger.Statement

variable {mint : Mint} {minted : Nat} {text : String} {names : List String}

/-- The required columns that a header lacks, in the order in which they are required. -/
def absentColumns (names : List String) : List String := requiredColumns.filter (· ∉ names)

/-- The columns that a row lacks are those that the header lacks. -/
theorem missingColumns_of_row {record : Csv.Record} {r : Fields Value}
    (h : row names record = .ok r) : missingColumns r = absentColumns names := by
  unfold missingColumns absentColumns
  refine List.filter_congr fun name _ => ?_
  rw [Bool.eq_iff_iff, Option.isNone_iff_eq_none, get?_eq_none_iff_of_row h, decide_eq_true_iff]

/-- The columns that the first row lacks, if there is a row, are those that the header lacks. -/
theorem head?_map_missingColumns {rs : List (Fields Value)} (h : rows text = .ok rs) :
    rs.head?.map missingColumns =
      if keptRecords text = [] then none else some (absentColumns (headerNames text)) := by
  have hrows := (rows_eq_ok_iff.1 h).2
  generalize keptRecords text = records at hrows
  cases hrows with
  | nil => rfl
  | cons hfirst _ => simp [missingColumns_of_row hfirst]

/-- A record without a transaction is no missing column. -/
theorem mapError_record_ne (found : Except RecordError (List Transaction)) :
    found.mapError LoadError.record ≠ .error (.missingColumns names) := by
  cases found <;> rintro ⟨⟩

/-- **The statements that are refused for their columns.**  A statement is refused for its columns
exactly if it can be read, a record that is not blank stands under its header, and the header lacks
a required column.  The columns that it is refused for are all that the header lacks, in the order
in which they are required. -/
theorem load_eq_missingColumns_iff :
    (load mint minted text).1 = .error (.missingColumns names) ↔
      (∃ rs, rows text = .ok rs) ∧ keptRecords text ≠ [] ∧
        names = absentColumns (headerNames text) ∧ names ≠ [] := by
  cases hrows : rows text with
  | error e =>
    rw [load_eq_rows_error_iff.2 hrows]
    refine iff_of_false (by rintro ⟨⟩) ?_
    rintro ⟨⟨rs, ⟨⟩⟩, -⟩
  | ok rs =>
    rw [and_iff_right ⟨rs, rfl⟩]
    unfold load
    rw [hrows]
    dsimp only
    rw [head?_map_missingColumns hrows]
    by_cases hnone : keptRecords text = []
    · rw [if_pos hnone]
      exact iff_of_false (mapError_record_ne _) fun h => h.1 hnone
    rw [if_neg hnone, and_iff_right hnone]
    cases absentColumns (headerNames text) with
    | nil => exact iff_of_false (mapError_record_ne _) fun h => h.2 h.1
    | cons c cs =>
      dsimp only
      constructor
      · intro h
        cases h
        exact ⟨rfl, List.cons_ne_nil c cs⟩
      · rintro ⟨rfl, -⟩
        rfl

/-- A statement without rows is loaded, whatever its header. -/
theorem load_of_keptRecords_eq_nil (hread : ∃ rs, rows text = .ok rs)
    (hnone : keptRecords text = []) : load mint minted text = (.ok [], minted) := by
  obtain ⟨rs, hrows⟩ := hread
  obtain ⟨-, hall⟩ := rows_eq_ok_iff.1 hrows
  rw [hnone, List.forall₂_nil_left_iff] at hall
  unfold load
  rw [hrows, hall]
  rfl

/-- Not every statement whose header lacks a required column is refused. -/
theorem not_refused_of_header :
    ¬∀ (mint : Mint) (minted : Nat) (text : String), (∃ rs, rows text = .ok rs) →
      headerNames text ≠ [] → absentColumns (headerNames text) ≠ [] →
        (load mint minted text).1 =
          .error (.missingColumns (absentColumns (headerNames text))) := by
  intro hrefused
  -- the record under the header holds nothing but space
  have hnone : keptRecords "date,description\n , \n" = [] := by decide +kernel
  have hread : ∃ rs, rows "date,description\n , \n" = .ok rs :=
    ⟨[], rows_eq_ok_iff.2 ⟨by decide +kernel, hnone ▸ .nil⟩⟩
  have herror := hrefused (fun _ => "") 0 _ hread (by decide +kernel) (by decide +kernel)
  rw [load_of_keptRecords_eq_nil hread hnone] at herror
  cases herror

end SpendingLedger.Statement

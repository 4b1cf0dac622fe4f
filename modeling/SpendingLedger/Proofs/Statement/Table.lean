import SpendingLedger.Proofs.Csv.RoundTrip
import SpendingLedger.Proofs.Statement.Rows

/-!
# Tables as rows

A table that is written with every field in quotes is read back as its rows: one for each record
below the header that is not blank, with the values of the trimmed cells under the trimmed names.
Where a name stands above several columns, the last one counts.

## Main definitions

* `Statement.IsLastColumn` — the column that counts for a name.
* `Statement.IsRowUnder` — the rows that a record makes under a header.

## Main results

* `Statement.isRowUnder_of_row` — the row of a record.
* `Statement.rows_tableChars` — **the rows of a table, read back from its text.**
-/

namespace SpendingLedger

namespace Statement

/-- Whether `column` is the last one with the given name. -/
structure IsLastColumn (names : List String) (column : Nat) (name : String) : Prop where
  here : names[column]? = some name
  last : name ∉ names.drop (column + 1)

/-- Every name has a column that counts. -/
theorem exists_isLastColumn {names : List String} {name : String} (h : name ∈ names) :
    ∃ column, IsLastColumn names column name := by
  induction names with
  | nil => exact absurd h List.not_mem_nil
  | cons n names ih =>
    by_cases hrest : name ∈ names
    · obtain ⟨column, hcolumn⟩ := ih hrest
      exact ⟨column + 1, hcolumn.here, hcolumn.last⟩
    · obtain rfl : name = n := (List.mem_cons.1 h).resolve_right hrest
      exact ⟨0, rfl, hrest⟩

/-- Whether `r` is what a record makes under a header: a value for each of the names, that of the
trimmed cell in the last column of the name.  A cell that is missing at the end of the record is
empty. -/
structure IsRowUnder (first record : Csv.Record) (r : Fields Value) : Prop where
  nodup : (r.map Prod.fst).Nodup
  names : ∀ name, name ∈ r.map Prod.fst ↔ name ∈ header first
  values : ∀ name ∈ header first, ∃ column v, IsLastColumn (header first) column name ∧
    Fields.get? name r = some v ∧ cell (Text.trimChars (record[column]?.getD [])) = .ok v

/-- The value of a name is that in its last column. -/
theorem get?_ofList_zip {names : List String} {values : List Value} {column : Nat} {name : String}
    (h : IsLastColumn names column name) {v : Value} (hv : values[column]? = some v)
    (hlength : names.length ≤ values.length) :
    Fields.get? name (Fields.ofList (names.zip values)) = some v := by
  have hfield : (names.zip values)[column]? = some (name, v) :=
    List.getElem?_zip_eq_some.2 ⟨h.here, hv⟩
  obtain ⟨hcolumn, hat⟩ := List.getElem?_eq_some_iff.1 hfield
  have hsplit : names.zip values = (names.zip values).take column ++
      (name, v) :: (names.zip values).drop (column + 1) := by
    rw [← hat, List.getElem_cons_drop, List.take_append_drop]
  rw [hsplit]
  -- no field behind this one has the name
  refine Fields.get?_ofList_append ?_
  rw [List.map_drop, List.map_fst_zip hlength]
  exact h.last

/-- **The row of a record.** -/
theorem isRowUnder_of_row {first record : Csv.Record} {r : Fields Value}
    (h : row (header first) record = .ok r) : IsRowUnder first record r := by
  obtain ⟨hnodup, hnames⟩ := names_of_row h
  obtain ⟨values, hvalues, rfl⟩ := row_eq_ok_iff.1 h
  refine ⟨hnodup, hnames, fun name hname => ?_⟩
  obtain ⟨column, hcolumn⟩ := exists_isLastColumn hname
  obtain ⟨hlt, -⟩ := List.getElem?_eq_some_iff.1 hcolumn.here
  obtain ⟨v, hv, hcell⟩ := getElem?_of_forall₂ hvalues (getElem?_cells_of_lt hlt record)
  exact ⟨column, v, hcolumn, get?_ofList_zip hcolumn hv (length_le_of_cells hvalues), hcell⟩

/-- A record is refused for no other cell than one of its own. -/
theorem exists_row_eq_ok {names : List String} {record : Csv.Record}
    (h : ∀ cs ∈ record, ¬IsOverlong (Text.trimChars cs)) : ∃ r, row names record = .ok r := by
  cases hrow : row names record with
  | ok r => exact ⟨r, rfl⟩
  | error e =>
    obtain ⟨cs, hcs, hlong⟩ := exists_row_eq_error_iff.1 ⟨e, hrow⟩
    rcases List.mem_append.1 (List.mem_of_mem_take hcs) with hcs | hcs
    · obtain ⟨field, hfield, rfl⟩ := List.mem_map.1 hcs
      exact absurd hlong (h field hfield)
    · rw [List.eq_of_mem_replicate hcs] at hlong
      exact absurd hlong.1 (by decide)

/-- **The rows of a table, read back from its text.**  There is one for each record that is not
blank, in order. -/
theorem rows_tableChars {first : Csv.Record} {records : List Csv.Record} (hfirst : first ≠ [])
    (hshort : ∀ record ∈ first :: records, Csv.IsShort record)
    (hdigits : ∀ record ∈ records, ∀ cs ∈ record, ¬IsOverlong (Text.trimChars cs))
    (e : Csv.LineEnd) :
    ∃ rs, rows (String.ofList (Csv.tableChars e (first :: records))) = .ok rs ∧
      List.Forall₂ (IsRowUnder first) (records.filter (!isBlankRecord ·)) rs := by
  obtain ⟨kept, k, rfl, hread⟩ := Csv.read_trimChars_tableChars hfirst hshort e
  -- the records that trimming takes away are blank
  have hfilter : (kept ++ List.replicate k []).filter (!isBlankRecord ·) =
      kept.filter (!isBlankRecord ·) := by
    rw [List.filter_append, List.filter_replicate, if_neg (by decide), List.append_nil]
  have hrow : ∀ record ∈ kept.filter (!isBlankRecord ·),
      ∃ r, row (header first) record = .ok r := by
    intro record hmem
    exact exists_row_eq_ok (hdigits record (List.mem_append_left _ (List.mem_filter.1 hmem).1))
  obtain ⟨rs, hrs⟩ := exists_forall₂ hrow
  refine ⟨rs, rows_eq_ok_iff.2 ?_, ?_⟩
  · unfold keptRecords headerNames
    rw [String.toList_ofList, hread]
    exact ⟨rfl, hrs⟩
  · rw [hfilter]
    exact hrs.imp fun record r => isRowUnder_of_row

/-- A name stands above two columns, a field spans two lines, and one record is blank. -/
theorem rows_tableChars_repeated_name :
    let first : Csv.Record := [" id ".toList, "note".toList, "id".toList]
    let records : List Csv.Record :=
      [["7".toList, "a \"b\",\r\nc ".toList], [" ".toList, []],
        [[], "x".toList, "08".toList, "9".toList], []]
    first ≠ [] ∧ (∀ record ∈ first :: records, Csv.IsShort record) ∧
      (∀ record ∈ records, ∀ cs ∈ record, ¬IsOverlong (Text.trimChars cs)) ∧
      ∃ r r', rows (String.ofList (Csv.tableChars .returnFeed (first :: records))) = .ok [r, r'] ∧
        IsRowUnder first ["7".toList, "a \"b\",\r\nc ".toList] r ∧
        IsRowUnder first [[], "x".toList, "08".toList, "9".toList] r' := by
  intro first records
  have hfirst : first ≠ [] := by decide
  have hshort : ∀ record ∈ first :: records, Csv.IsShort record := by decide +kernel
  have hdigits : ∀ record ∈ records, ∀ cs ∈ record, ¬IsOverlong (Text.trimChars cs) := by
    decide +kernel
  obtain ⟨rs, hrows, hrs⟩ := rows_tableChars hfirst hshort hdigits .returnFeed
  refine ⟨hfirst, hshort, hdigits, ?_⟩
  have hkept : records.filter (!isBlankRecord ·) =
      [["7".toList, "a \"b\",\r\nc ".toList], [[], "x".toList, "08".toList, "9".toList]] := by
    decide +kernel
  rw [hkept] at hrs
  cases hrs with
  | cons hr hrest =>
    cases hrest with
    | cons hr' hnil =>
      cases hnil
      exact ⟨_, _, hrows, hr, hr'⟩

end Statement

end SpendingLedger

import Mathlib.Data.List.Forall2
import SpendingLedger.Proofs.Statement.Cells
import SpendingLedger.Proofs.Value.Fields

/-!
# Rows of a statement

The records under the header become rows one by one, without the blank ones.  A record is refused
only for a cell with too many digits, and every value of a row is that of one of its cells.  Where
the names of the header are different, it is the cell under the name.

## Main definitions

* `Statement.headerNames`, `Statement.keptRecords` — the names of a text, and its records.
* `Statement.cellUnder` — the cell of a record under a name.
* `Statement.IsOfCells` — the rows with values of cells.

## Main results

* `Statement.rows_eq_ok_iff`, `Statement.exists_rows_eq_integerTooLong_iff` — **the rows of a
  text, and the texts with too many digits in a cell.**
* `Statement.names_of_row`, `Statement.isOfCells_of_row` — the names of a row are those of the
  header, and its values those of cells.
* `Statement.get?_of_row` — the value under a name.
-/

namespace SpendingLedger

/-! ### Sequences that may fail -/

section Traversal

variable {α β ε : Type} {f : α → Except ε β}

/-- A traversal succeeds with the results for its elements. -/
theorem mapM_eq_ok_iff {l : List α} {out : List β} :
    l.mapM f = .ok out ↔ List.Forall₂ (fun a b => f a = .ok b) l out := by
  induction l generalizing out with
  | nil =>
    rw [List.mapM_nil, List.forall₂_nil_left_iff]
    constructor
    · intro h
      cases h
      rfl
    · rintro rfl
      rfl
  | cons a l ih =>
    rw [List.mapM_cons, List.forall₂_cons_left_iff]
    cases ha : f a with
    | error e =>
      refine iff_of_false (by rintro ⟨⟩) ?_
      rintro ⟨b, bs, hb, -⟩
      cases hb
    | ok b =>
      cases hl : l.mapM f with
      | error e =>
        refine iff_of_false (by rintro ⟨⟩) ?_
        rintro ⟨b, bs, -, hbs, -⟩
        rw [← ih, hl] at hbs
        cases hbs
      | ok bs =>
        constructor
        · intro h
          cases h
          exact ⟨b, bs, rfl, ih.1 hl, rfl⟩
        · rintro ⟨b', bs', hb', hbs', rfl⟩
          cases hb'
          rw [← ih, hl] at hbs'
          cases hbs'
          rfl

/-- A traversal fails exactly if an element does. -/
theorem exists_mapM_eq_error_iff {l : List α} :
    (∃ e, l.mapM f = .error e) ↔ ∃ a ∈ l, ∃ e, f a = .error e := by
  induction l with
  | nil =>
    refine iff_of_false ?_ ?_
    · rintro ⟨e, ⟨⟩⟩
    · rintro ⟨a, ha, -⟩
      exact absurd ha List.not_mem_nil
  | cons a l ih =>
    rw [List.mapM_cons, List.exists_mem_cons_iff, ← ih]
    cases ha : f a with
    | error e => exact iff_of_true ⟨e, rfl⟩ (Or.inl ⟨e, rfl⟩)
    | ok b =>
      cases hl : l.mapM f with
      | error e => exact iff_of_true ⟨e, rfl⟩ (Or.inr ⟨e, rfl⟩)
      | ok bs =>
        refine iff_of_false ?_ ?_
        · rintro ⟨e, ⟨⟩⟩
        · rintro (⟨e, ⟨⟩⟩ | ⟨e, ⟨⟩⟩)

variable {R : α → β → Prop} {l : List α} {out : List β}

/-- What stands at a place is related to what stands there on the other side. -/
theorem getElem?_of_forall₂ (h : List.Forall₂ R l out) {i : Nat} {a : α} (ha : l[i]? = some a) :
    ∃ b, out[i]? = some b ∧ R a b := by
  obtain ⟨hi, rfl⟩ := List.getElem?_eq_some_iff.1 ha
  have hi' : i < out.length := h.length_eq ▸ hi
  exact ⟨out[i], List.getElem?_eq_getElem hi', h.get hi hi'⟩

theorem forall₂_trans {γ : Type} {S : β → γ → Prop} {T : α → γ → Prop}
    (hT : ∀ a b c, R a b → S b c → T a c) {last : List γ} (hR : List.Forall₂ R l out)
    (hS : List.Forall₂ S out last) : List.Forall₂ T l last := by
  induction hR generalizing last with
  | nil =>
    cases hS
    exact .nil
  | cons hab _ ih =>
    cases hS with
    | cons hbc hrest => exact .cons (hT _ _ _ hab hbc) (ih hrest)

/-- What every element of a list is related to can be listed. -/
theorem exists_forall₂ (h : ∀ a ∈ l, ∃ b, R a b) : ∃ out, List.Forall₂ R l out := by
  induction l with
  | nil => exact ⟨[], .nil⟩
  | cons a l ih =>
    obtain ⟨b, hb⟩ := h a List.mem_cons_self
    obtain ⟨out, hout⟩ := ih fun a' ha' => h a' (List.mem_cons_of_mem a ha')
    exact ⟨b :: out, .cons hb hout⟩

theorem exists_of_mem_forall₂ (h : List.Forall₂ R l out) {b : β} (hb : b ∈ out) :
    ∃ a ∈ l, R a b := by
  induction h with
  | nil => exact absurd hb List.not_mem_nil
  | cons hab hrest ih =>
    rcases List.mem_cons.1 hb with rfl | hb
    · exact ⟨_, List.mem_cons_self, hab⟩
    · obtain ⟨a, ha, hrel⟩ := ih hb
      exact ⟨a, List.mem_cons_of_mem _ ha, hrel⟩

end Traversal

namespace Statement

open Text (Trimmed isSpace)

/-! ### Records of a text -/

/-- The names in the header of a text. -/
def headerNames (text : String) : List String :=
  header ((Csv.read (Text.trimChars text.toList)).1.headD [])

/-- The records under the header of a text, without the blank ones. -/
def keptRecords (text : String) : List Csv.Record :=
  (Csv.read (Text.trimChars text.toList)).1.tail.filter (!isBlankRecord ·)

/-- The trimmed cell of a record under a name, empty if the record ends before it. -/
def cellUnder (names : List String) (record : Csv.Record) (name : String) : List Char :=
  Text.trimChars (record[names.idxOf name]?.getD [])

/-- The rows of a text are those of its records, as long as all of it can be read. -/
theorem rows_eq (text : String) :
    rows text =
      match (keptRecords text).mapM (row (headerNames text)),
        (Csv.read (Text.trimChars text.toList)).2 with
      | .error e, _ => .error (.integerTooLong e)
      | .ok _, some e => .error (.csv e)
      | .ok rs, none => .ok rs := by
  unfold rows keptRecords headerNames
  obtain ⟨records, stop⟩ := Csv.read (Text.trimChars text.toList)
  cases records with
  | nil => rfl
  | cons first rest => rfl

/-- **The rows of a text.** -/
theorem rows_eq_ok_iff {text : String} {rs : List (Fields Value)} :
    rows text = .ok rs ↔
      (Csv.read (Text.trimChars text.toList)).2 = none ∧
        List.Forall₂ (fun record r => row (headerNames text) record = .ok r)
          (keptRecords text) rs := by
  rw [rows_eq, ← mapM_eq_ok_iff]
  cases (keptRecords text).mapM (row (headerNames text)) with
  | error e =>
    refine iff_of_false (by rintro ⟨⟩) ?_
    rintro ⟨-, ⟨⟩⟩
  | ok rs' =>
    cases (Csv.read (Text.trimChars text.toList)).2 with
    | some e =>
      refine iff_of_false (by rintro ⟨⟩) ?_
      rintro ⟨⟨⟩, -⟩
    | none =>
      constructor
      · intro h
        cases h
        exact ⟨rfl, rfl⟩
      · rintro ⟨-, h⟩
        cases h
        rfl

/-! ### The cells of a record -/

/-- A record is refused exactly for a cell with too many digits. -/
theorem exists_row_eq_error_iff {names : List String} {record : Csv.Record} :
    (∃ e, row names record = .error e) ↔ ∃ cs ∈ cells names.length record, IsOverlong cs := by
  have hcells : (∃ e, row names record = .error e) ↔
      ∃ e, (cells names.length record).mapM cell = .error e := by
    unfold row
    cases (cells names.length record).mapM cell with
    | error e => exact iff_of_true ⟨e, rfl⟩ ⟨e, rfl⟩
    | ok values =>
      refine iff_of_false ?_ ?_
      · rintro ⟨e, ⟨⟩⟩
      · rintro ⟨e, ⟨⟩⟩
  rw [hcells, exists_mapM_eq_error_iff]
  simp only [exists_cell_eq_error_iff]

/-- **The texts with too many digits in a cell.** -/
theorem exists_rows_eq_integerTooLong_iff {text : String} :
    (∃ e, rows text = .error (.integerTooLong e)) ↔
      ∃ record ∈ keptRecords text, ∃ cs ∈ cells (headerNames text).length record,
        IsOverlong cs := by
  have hrows : (∃ e, rows text = .error (.integerTooLong e)) ↔
      ∃ e, (keptRecords text).mapM (row (headerNames text)) = .error e := by
    rw [rows_eq]
    cases (keptRecords text).mapM (row (headerNames text)) with
    | error e => exact iff_of_true ⟨e, rfl⟩ ⟨e, rfl⟩
    | ok rs =>
      refine iff_of_false ?_ (by rintro ⟨e, ⟨⟩⟩)
      cases (Csv.read (Text.trimChars text.toList)).2 <;> rintro ⟨e, ⟨⟩⟩
  rw [hrows, exists_mapM_eq_error_iff]
  simp only [exists_row_eq_error_iff]

/-- The cells of a record are trimmed. -/
theorem trimmed_of_mem_cells {n : Nat} {record : Csv.Record} {cs : List Char}
    (h : cs ∈ cells n record) : Trimmed isSpace cs := by
  rcases List.mem_append.1 (List.mem_of_mem_take h) with h | h
  · obtain ⟨field, -, rfl⟩ := List.mem_map.1 h
    exact Text.trimmed_trimBy isSpace field
  · rw [List.eq_of_mem_replicate h]
    exact Text.trimmed_nil isSpace

theorem length_cells (n : Nat) (record : Csv.Record) : (cells n record).length = n := by
  unfold cells
  rw [List.length_take, List.length_append, List.length_map, List.length_replicate]
  omega

/-- In each column stands a cell, empty if the record ends before it. -/
theorem getElem?_cells_of_lt {n column : Nat} (h : column < n) (record : Csv.Record) :
    (cells n record)[column]? = some (Text.trimChars (record[column]?.getD [])) := by
  unfold cells
  rw [List.getElem?_take_of_lt h]
  -- the cells that the record has stand before the empty ones
  by_cases hshort : column < record.length
  · rw [List.getElem?_append_left (by rwa [List.length_map]), List.getElem?_map]
    rw [List.getElem?_eq_getElem hshort]
    rfl
  · have hlong : record.length ≤ column := Nat.le_of_not_lt hshort
    rw [List.getElem?_append_right (by rwa [List.length_map]), List.length_map,
      List.getElem?_replicate_of_lt (by omega), List.getElem?_eq_none hlong]
    rfl

/-- Under each name stands a cell. -/
theorem getElem?_cells {names : List String} {name : String} (h : name ∈ names)
    (record : Csv.Record) :
    (cells names.length record)[names.idxOf name]? = some (cellUnder names record name) :=
  getElem?_cells_of_lt (List.idxOf_lt_length_iff.2 h) record

/-! ### The values of a row -/

/-- Whether each value of a row is that of a trimmed cell. -/
def IsOfCells (r : Fields Value) : Prop :=
  ∀ name v, Fields.get? name r = some v → ∃ cs, Trimmed isSpace cs ∧ cell cs = .ok v

theorem row_eq_ok_iff {names : List String} {record : Csv.Record} {r : Fields Value} :
    row names record = .ok r ↔
      ∃ values, List.Forall₂ (fun cs v => cell cs = .ok v) (cells names.length record) values ∧
        r = Fields.ofList (names.zip values) := by
  simp only [← mapM_eq_ok_iff]
  unfold row
  cases (cells names.length record).mapM cell with
  | error e =>
    refine iff_of_false (by rintro ⟨⟩) ?_
    rintro ⟨values, ⟨⟩, -⟩
  | ok values =>
    constructor
    · intro h
      cases h
      exact ⟨values, rfl, rfl⟩
    · rintro ⟨values', h, rfl⟩
      cases h
      rfl

/-- A record has a value for every name of the header, however many cells it has. -/
theorem length_le_of_cells {names : List String} {record : Csv.Record} {values : List Value}
    (h : List.Forall₂ (fun cs v => cell cs = .ok v) (cells names.length record) values) :
    names.length ≤ values.length :=
  Nat.le_of_eq ((length_cells names.length record).symm.trans h.length_eq)

/-- The names of a row are those of the header. -/
theorem names_of_row {names : List String} {record : Csv.Record} {r : Fields Value}
    (h : row names record = .ok r) :
    (r.map Prod.fst).Nodup ∧ ∀ name, name ∈ r.map Prod.fst ↔ name ∈ names := by
  obtain ⟨values, hvalues, rfl⟩ := row_eq_ok_iff.1 h
  have hnames := Fields.names_ofList (names.zip values)
  rwa [List.map_fst_zip (length_le_of_cells hvalues)] at hnames

/-- A row lacks a value exactly under the names that the header lacks. -/
theorem get?_eq_none_iff_of_row {names : List String} {record : Csv.Record} {r : Fields Value}
    (h : row names record = .ok r) (name : String) :
    Fields.get? name r = none ↔ name ∉ names := by
  rw [Fields.get?_eq_none_iff, (names_of_row h).2]

/-- The values of a row are those of its cells. -/
theorem isOfCells_of_row {names : List String} {record : Csv.Record} {r : Fields Value}
    (h : row names record = .ok r) : IsOfCells r := by
  intro name v hv
  obtain ⟨values, hvalues, rfl⟩ := row_eq_ok_iff.1 h
  have hmem : v ∈ values := (List.of_mem_zip (Fields.mem_of_get?_ofList hv)).2
  obtain ⟨cs, hcs, hcell⟩ := exists_of_mem_forall₂ hvalues hmem
  exact ⟨cs, trimmed_of_mem_cells hcs, hcell⟩

/-- Under different names, the value of a name is that of the cell under it. -/
theorem get?_of_row {names : List String} (hnames : names.Nodup) {name : String}
    (hmem : name ∈ names) {record : Csv.Record} {r : Fields Value}
    (h : row names record = .ok r) :
    ∃ v, Fields.get? name r = some v ∧ cell (cellUnder names record name) = .ok v := by
  obtain ⟨values, hvalues, rfl⟩ := row_eq_ok_iff.1 h
  have hkeys : ((names.zip values).map Prod.fst).Nodup := by
    rwa [List.map_fst_zip (length_le_of_cells hvalues)]
  rw [Fields.ofList_of_nodup hkeys, Fields.get?_zip hmem]
  exact getElem?_of_forall₂ hvalues (getElem?_cells hmem record)

end Statement

end SpendingLedger

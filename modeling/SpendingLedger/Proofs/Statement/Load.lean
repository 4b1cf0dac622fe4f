import SpendingLedger.Proofs.Number.Overflow
import SpendingLedger.Proofs.Statement.Clean
import SpendingLedger.Proofs.Statement.Rows

/-!
# Loading a statement

Of a row only its amount can be refused, and only an integer that no number of the format is
nearest to: the date and the texts of a row are always found.  So a statement whose rows can be read
and have the required columns is loaded, row by row, unless it holds such an amount.

The description of a transaction and the id that its row brings are what is left of their cells once
the values are written again.  A cell that writes no number is left as it is.  A number changes its
text but not its value, so two rows have the same id only if both ids write the same number or are
the same text.

## Main definitions

* `Statement.HasHugeAmount` — the rows that are refused.
* `Statement.HasColumns` — whether the first row has the required columns.
* `Statement.KeepsTexts` — whether a transaction has the texts of its record.

## Main results

* `Statement.transactions_eq_error_iff`, `Statement.load_eq_record_error_iff` — **the rows and the
  statements that are refused for an amount.**
* `Statement.keepsTexts_of_load` — the texts of the transactions of a statement.
-/

namespace SpendingLedger.Statement

open Text (Trimmed isSpace)

variable {mint : Mint} {minted n : Nat} {r : Fields Value} {rs : List (Fields Value)}

/-! ### The transaction of a row -/

/-- Whether the amount of a row is an integer that no binary64 number is nearest to. -/
def HasHugeAmount (r : Fields Value) : Prop :=
  ∃ n : Int, Fields.get? "amount" r = some (.int n) ∧ Binary64.overflowThreshold ≤ n.natAbs

/-- What stands under a name has a trimmed text, also if nothing does. -/
theorem IsOfCells.exists_trimmedText (h : IsOfCells r) (name : String) :
    ∃ s, trimmedText ((Fields.get? name r).getD .null) = .ok s := by
  cases hv : Fields.get? name r with
  | none => exact ⟨"", rfl⟩
  | some v =>
    obtain ⟨cs, htrimmed, hcell⟩ := h name v hv
    exact ⟨keptText cs, trimmedText_of_cell htrimmed hcell⟩

theorem IsOfCells.exists_date (h : IsOfCells r) :
    ∃ date, DateLiteral.ofValue ((Fields.get? "date" r).getD .null) = .ok date := by
  cases hv : Fields.get? "date" r with
  | none => exact ⟨"", rfl⟩
  | some v =>
    obtain ⟨cs, htrimmed, hcell⟩ := h "date" v hv
    obtain ⟨s, hs⟩ := exists_asText hcell
    rw [Option.getD_some]
    unfold DateLiteral.ofValue
    split
    · exact ⟨"", rfl⟩
    · rw [hs]
      exact ⟨DateLiteral.normalize s, rfl⟩

theorem coerce_int_eq_error_iff {n : Int} {e : Amount.Misfit} :
    Amount.coerce (.int n) = .error e ↔
      e = .tooLarge ∧ Binary64.overflowThreshold ≤ n.natAbs := by
  rw [← Binary64.ofInt?_eq_none_iff, Amount.coerce]
  cases Binary64.ofInt? n with
  | none =>
    constructor
    · intro he
      cases he
      exact ⟨rfl, rfl⟩
    · rintro ⟨rfl, -⟩
      rfl
  | some x =>
    refine iff_of_false (by rintro ⟨⟩) ?_
    rintro ⟨-, ⟨⟩⟩

/-- The amount of a cell is refused exactly if it is an integer that is too large. -/
theorem coerce_eq_error_iff_of_writes {cs : List Char} {v : Value} (h : Writes cs v)
    {e : Amount.Misfit} :
    Amount.coerce v = .error e ↔
      e = .tooLarge ∧ ∃ n, v = .int n ∧ Binary64.overflowThreshold ≤ n.natAbs := by
  have hno : ∀ x : Binary64, ∀ w : Value, (∀ n, w ≠ .int n) →
      ((.ok x : Except Amount.Misfit Binary64) = .error e ↔
        e = .tooLarge ∧ ∃ n, w = .int n ∧ Binary64.overflowThreshold ≤ n.natAbs) := by
    intro x w hw
    refine iff_of_false (by rintro ⟨⟩) ?_
    rintro ⟨-, n, rfl, -⟩
    exact hw n rfl
  cases h with
  | integer =>
    rw [coerce_int_eq_error_iff]
    refine and_congr_right fun _ => ⟨fun hlarge => ⟨_, rfl, hlarge⟩, ?_⟩
    rintro ⟨n, hn, hlarge⟩
    cases hn
    exact hlarge
  | float => exact hno _ _ (by rintro n ⟨⟩)
  | text => exact hno _ _ (by rintro n ⟨⟩)

/-- The amount of a row is refused exactly if it is too large. -/
theorem IsOfCells.coerce_eq_error_iff (h : IsOfCells r) {e : Amount.Misfit} :
    Amount.coerce ((Fields.get? "amount" r).getD .null) = .error e ↔
      e = .tooLarge ∧ HasHugeAmount r := by
  unfold HasHugeAmount
  cases hv : Fields.get? "amount" r with
  | none =>
    refine iff_of_false (by rintro ⟨⟩) ?_
    rintro ⟨-, n, ⟨⟩, -⟩
  | some v =>
    obtain ⟨cs, -, hcell⟩ := h "amount" v hv
    rw [Option.getD_some, coerce_eq_error_iff_of_writes (writes_of_cell hcell)]
    simp only [Option.some.injEq]

/-- A row has a transaction unless its amount is too large. -/
theorem IsOfCells.transactionNamed_cases (h : IsOfCells r) (id : String) :
    (HasHugeAmount r ∧ transactionNamed id r = .error (.misfit .tooLarge)) ∨
      (¬HasHugeAmount r ∧ ∃ t, transactionNamed id r = .ok t) := by
  obtain ⟨date, hdate⟩ := h.exists_date
  obtain ⟨description, hdescription⟩ := h.exists_trimmedText "description"
  have hamount := @IsOfCells.coerce_eq_error_iff r h
  unfold transactionNamed
  rw [hdate, hdescription]
  dsimp only
  cases hcoerce : Amount.coerce ((Fields.get? "amount" r).getD .null) with
  | error e =>
    obtain ⟨rfl, hhuge⟩ := hamount.1 hcoerce
    exact Or.inl ⟨hhuge, rfl⟩
  | ok x =>
    refine Or.inr ⟨fun hhuge => ?_, _, rfl⟩
    rw [hamount.2 ⟨rfl, hhuge⟩] at hcoerce
    cases hcoerce

theorem IsOfCells.transaction_cases (h : IsOfCells r) (mint : Mint) (minted : Nat) :
    (HasHugeAmount r ∧ (transaction mint minted r).1 = .error (.misfit .tooLarge)) ∨
      (¬HasHugeAmount r ∧ ∃ t, (transaction mint minted r).1 = .ok t) := by
  obtain ⟨own, hown⟩ := h.exists_trimmedText "id"
  unfold transaction ownId
  rw [hown]
  dsimp only
  split
  · exact h.transactionNamed_cases (mint minted)
  · exact h.transactionNamed_cases own

/-! ### The transactions of rows -/

/-- A sequence of rows is refused exactly for an amount that is too large. -/
theorem transactions_eq_error_iff (h : ∀ r ∈ rs, IsOfCells r) {e : RecordError} :
    (transactions mint minted rs).1 = .error e ↔
      e = .misfit .tooLarge ∧ ∃ r ∈ rs, HasHugeAmount r := by
  induction rs generalizing minted with
  | nil =>
    refine iff_of_false (by rintro ⟨⟩) ?_
    rintro ⟨-, r, hr, -⟩
    exact absurd hr List.not_mem_nil
  | cons r rs ih =>
    -- the rows behind the first one may find more ids minted than it did
    have hrest := fun m => @ih m fun r' hr' => h r' (List.mem_cons_of_mem r hr')
    rw [transactions, List.exists_mem_cons_iff]
    rcases (h r List.mem_cons_self).transaction_cases mint minted with
      ⟨hhuge, hfirst⟩ | ⟨hsmall, t, hfirst⟩
    · obtain ⟨m, hm⟩ : ∃ m, transaction mint minted r = (.error (.misfit .tooLarge), m) :=
        ⟨_, Prod.ext hfirst rfl⟩
      rw [hm]
      constructor
      · intro he
        cases he
        exact ⟨rfl, Or.inl hhuge⟩
      · rintro ⟨rfl, -⟩
        rfl
    · obtain ⟨m, hm⟩ : ∃ m, transaction mint minted r = (.ok t, m) := ⟨_, Prod.ext hfirst rfl⟩
      rw [hm, or_iff_right hsmall, ← hrest m]
      show (transactions mint m rs).1.map (t :: ·) = .error e ↔ _
      cases (transactions mint m rs).1 with
      | error e' =>
        constructor
        · intro he
          cases he
          rfl
        · intro he
          cases he
          rfl
      | ok ts => exact iff_of_false (by rintro ⟨⟩) (by rintro ⟨⟩)

/-- Each row of a sequence has its own transaction. -/
theorem forall₂_of_transactions {ts : List Transaction}
    (h : transactions mint minted rs = (.ok ts, n)) :
    List.Forall₂ (fun r t => ∃ m, (transaction mint m r).1 = .ok t) rs ts := by
  induction rs generalizing minted ts with
  | nil =>
    cases h
    exact .nil
  | cons r rs ih =>
    unfold transactions at h
    split at h
    · cases h
    next t m hfirst =>
    cases hrest : transactions mint m rs with
    | mk found k =>
      rw [hrest] at h
      cases found with
      | error e => cases h
      | ok us =>
        cases h
        exact .cons ⟨minted, by rw [hfirst]⟩ (ih hrest)

/-- A transaction has the description of its row, and the id if the row brings one. -/
theorem texts_of_transaction {t : Transaction} (h : (transaction mint minted r).1 = .ok t) :
    (∃ s, trimmedText ((Fields.get? "description" r).getD .null) = .ok s ∧
      t.description = some s) ∧
    ∀ s, ownId r = .ok s → s ≠ "" → t.id = s := by
  unfold transaction at h
  split at h
  · cases h
  next own hown =>
  have howned : ∀ s, ownId r = .ok s → own = s := by
    intro s hs
    rw [hown] at hs
    exact Except.ok.inj hs
  split at h
  · next hempty =>
    obtain ⟨-, hdescription⟩ := of_transactionNamed h
    refine ⟨hdescription, fun s hs hne => ?_⟩
    rw [howned s hs] at hempty
    exact absurd (by simpa using hempty) hne
  · obtain ⟨hid, hdescription⟩ := of_transactionNamed h
    refine ⟨hdescription, fun s hs _ => ?_⟩
    rw [hid, howned s hs]

/-! ### Statements -/

/-- Whether the first of the rows has the required columns. -/
def HasColumns (rs : List (Fields Value)) : Prop := ∀ r, rs.head? = some r → missingColumns r = []

theorem isOfCells_of_rows {text : String} (h : rows text = .ok rs) : ∀ r ∈ rs, IsOfCells r := by
  intro r hr
  obtain ⟨record, -, hrow⟩ := exists_of_mem_forall₂ (rows_eq_ok_iff.1 h).2 hr
  exact isOfCells_of_row hrow

/-- A statement with rows is loaded unless a column is missing or a row has no transaction. -/
theorem load_of_rows {text : String} (h : rows text = .ok rs) :
    (∃ c cs, ¬HasColumns rs ∧
      load mint minted text = (.error (.missingColumns (c :: cs)), minted)) ∨
    (HasColumns rs ∧ load mint minted text =
      ((transactions mint minted rs).1.mapError .record, (transactions mint minted rs).2)) := by
  unfold load
  rw [h]
  dsimp only
  split
  · next c cs hhead =>
    obtain ⟨r, hr, hmissing⟩ := Option.map_eq_some_iff.1 hhead
    refine Or.inl ⟨c, cs, fun hcolumns => ?_, rfl⟩
    rw [hcolumns r hr] at hmissing
    cases hmissing
  · next hhead =>
    refine Or.inr ⟨fun r hr => ?_, rfl⟩
    cases hmissing : missingColumns r with
    | nil => rfl
    | cons c cs => exact absurd (by rw [hr, Option.map_some, hmissing]) (hhead c cs)

/-- A statement is refused for its rows exactly if they cannot be read. -/
theorem load_eq_rows_error_iff {text : String} {e : RowError} :
    (load mint minted text).1 = .error (.rows e) ↔ rows text = .error e := by
  cases hrows : rows text with
  | error e' =>
    have hload : (load mint minted text).1 = .error (.rows e') := by
      unfold load
      rw [hrows]
    rw [hload]
    constructor
    · intro he
      cases he
      rfl
    · intro he
      cases he
      rfl
  | ok rs =>
    refine iff_of_false ?_ (by rintro ⟨⟩)
    rcases @load_of_rows mint minted rs text hrows with ⟨c, cs, -, hload⟩ | ⟨-, hload⟩
    · rw [hload]
      rintro ⟨⟩
    · rw [hload]
      cases (transactions mint minted rs).1 <;> rintro ⟨⟩

/-- **The statements that are refused for an amount.** -/
theorem load_eq_record_error_iff {text : String} {e : RecordError} :
    (load mint minted text).1 = .error (.record e) ↔
      e = .misfit .tooLarge ∧
        ∃ rs, rows text = .ok rs ∧ HasColumns rs ∧ ∃ r ∈ rs, HasHugeAmount r := by
  cases hrows : rows text with
  | error e' =>
    rw [load_eq_rows_error_iff.2 hrows]
    refine iff_of_false (by rintro ⟨⟩) ?_
    rintro ⟨-, rs, ⟨⟩, -⟩
  | ok rs =>
    have hrs : (∃ rs', (Except.ok rs : Except RowError _) = .ok rs' ∧ HasColumns rs' ∧
        ∃ r ∈ rs', HasHugeAmount r) ↔ HasColumns rs ∧ ∃ r ∈ rs, HasHugeAmount r := by
      constructor
      · rintro ⟨rs', hrs', h⟩
        cases hrs'
        exact h
      · exact fun h => ⟨rs, rfl, h⟩
    rw [hrs]
    rcases @load_of_rows mint minted rs text hrows with
      ⟨c, cs, hmissing, hload⟩ | ⟨hcolumns, hload⟩
    · rw [hload]
      refine iff_of_false (by rintro ⟨⟩) ?_
      rintro ⟨-, hcolumns, -⟩
      exact hmissing hcolumns
    · rw [hload, and_iff_right hcolumns,
        ← @transactions_eq_error_iff mint minted rs (isOfCells_of_rows hrows)]
      cases (transactions mint minted rs).1 with
      | error e' =>
        constructor
        · intro he
          cases he
          rfl
        · intro he
          cases he
          rfl
      | ok ts => exact iff_of_false (by rintro ⟨⟩) (by rintro ⟨⟩)

/-- What is loaded are the transactions of the rows. -/
theorem rows_of_load {text : String} {ts : List Transaction}
    (h : load mint minted text = (.ok ts, n)) :
    ∃ rs, rows text = .ok rs ∧ HasColumns rs ∧ transactions mint minted rs = (.ok ts, n) := by
  cases hrows : rows text with
  | error e =>
    unfold load at h
    rw [hrows] at h
    cases h
  | ok rs =>
    refine ⟨rs, rfl, ?_⟩
    rcases @load_of_rows mint minted rs text hrows with ⟨c, cs, -, hload⟩ | ⟨hcolumns, hload⟩
    · rw [hload] at h
      cases h
    · refine ⟨hcolumns, ?_⟩
      rw [hload] at h
      obtain ⟨hfirst, rfl⟩ := Prod.mk.inj h
      cases hfound : (transactions mint minted rs).1 with
      | error e =>
        rw [hfound] at hfirst
        cases hfirst
      | ok us =>
        rw [hfound] at hfirst
        cases hfirst
        exact Prod.ext hfound rfl

/-- The required columns stand in the header if there are rows. -/
theorem mem_headerNames {text : String} (hrows : rows text = .ok rs) (hcolumns : HasColumns rs)
    (hr : r ∈ rs) {name : String} (hname : name ∈ requiredColumns) : name ∈ headerNames text := by
  cases hrs : rs with
  | nil => exact absurd (hrs ▸ hr) List.not_mem_nil
  | cons first rest =>
    obtain ⟨record, -, hrow⟩ :=
      exists_of_mem_forall₂ (rows_eq_ok_iff.1 hrows).2 (hrs ▸ List.mem_cons_self)
    have hmissing := List.filter_eq_nil_iff.1 (hcolumns first (by rw [hrs]; rfl)) name hname
    by_contra hnot
    exact hmissing (Option.isNone_iff_eq_none.2 ((get?_eq_none_iff_of_row hrow name).2 hnot))

/-! ### Texts of a statement -/

/-- Whether a transaction has the description of its record and the id that the record brings. -/
structure KeepsTexts (names : List String) (record : Csv.Record) (t : Transaction) : Prop where
  description : t.description = some (keptText (cellUnder names record "description"))
  id : "id" ∈ names → cellUnder names record "id" ≠ [] →
    t.id = keptText (cellUnder names record "id")

/-- The transaction of a record has its texts, and the cell of its id has a value. -/
theorem keepsTexts_of_row {names : List String} (hnames : names.Nodup)
    (hdescription : "description" ∈ names) {record : Csv.Record} {t : Transaction}
    (hrow : row names record = .ok r) (ht : ∃ m, (transaction mint m r).1 = .ok t) :
    KeepsTexts names record t ∧
      ("id" ∈ names → ∃ v, cell (cellUnder names record "id") = .ok v) := by
  obtain ⟨m, hm⟩ := ht
  obtain ⟨⟨s, hs, htext⟩, hid⟩ := texts_of_transaction hm
  -- the row was built from the very cells, so the value under a name has the text of its cell
  have hvalue : ∀ name ∈ names, ∃ v, cell (cellUnder names record name) = .ok v ∧
      trimmedText ((Fields.get? name r).getD .null) =
        .ok (keptText (cellUnder names record name)) := by
    intro name hname
    obtain ⟨v, hv, hcell⟩ := get?_of_row hnames hname hrow
    refine ⟨v, hcell, ?_⟩
    rw [hv]
    exact trimmedText_of_cell (Text.trimmed_trimBy isSpace _) hcell
  refine ⟨⟨?_, fun hmem hne => ?_⟩, fun hmem => ?_⟩
  · obtain ⟨v, -, hkept⟩ := hvalue "description" hdescription
    rw [hkept] at hs
    cases hs
    exact htext
  · obtain ⟨v, hcell, hkept⟩ := hvalue "id" hmem
    exact hid _ hkept fun hempty => hne ((keptText_eq_empty_iff hcell).1 hempty)
  · obtain ⟨v, hcell, -⟩ := hvalue "id" hmem
    exact ⟨v, hcell⟩

/-- A loaded statement has a transaction for each record.  Where there are records, the header has
the required columns. -/
theorem forall₂_of_load {text : String} {ts : List Transaction}
    {R : Csv.Record → Transaction → Prop} (h : load mint minted text = (.ok ts, n))
    (hR : (∀ name ∈ requiredColumns, name ∈ headerNames text) → ∀ record r t,
      row (headerNames text) record = .ok r → (∃ m, (transaction mint m r).1 = .ok t) →
      R record t) :
    List.Forall₂ R (keptRecords text) ts := by
  obtain ⟨rs, hrows, hcolumns, htransactions⟩ := rows_of_load h
  have hrecords := (rows_eq_ok_iff.1 hrows).2
  have hts := forall₂_of_transactions htransactions
  cases hrs : rs with
  | nil =>
    subst hrs
    rw [List.forall₂_nil_right_iff.1 hrecords, List.forall₂_nil_left_iff.1 hts]
    exact .nil
  | cons first rest =>
    refine forall₂_trans (hR fun name hname => ?_) hrecords hts
    exact mem_headerNames hrows hcolumns (hrs ▸ List.mem_cons_self) hname

/-- **The texts of a statement.**  Every record that is not blank becomes a transaction, in order,
whose description and id are what is left of their cells.  Two records have the same id only if
both cells write the same value. -/
theorem keepsTexts_of_load {text : String} {ts : List Transaction}
    (hnames : (headerNames text).Nodup) (h : load mint minted text = (.ok ts, n)) :
    List.Forall₂ (KeepsTexts (headerNames text)) (keptRecords text) ts ∧
      ∀ p ∈ (keptRecords text).zip ts, ∀ q ∈ (keptRecords text).zip ts,
        "id" ∈ headerNames text →
        cellUnder (headerNames text) p.1 "id" ≠ [] → cellUnder (headerNames text) q.1 "id" ≠ [] →
        p.2.id = q.2.id →
        ∃ v, Writes (cellUnder (headerNames text) p.1 "id") v ∧
          Writes (cellUnder (headerNames text) q.1 "id") v := by
  have hall := forall₂_of_load h fun hcolumns _ _ _ hrow ht =>
    keepsTexts_of_row hnames (hcolumns "description" (by decide)) hrow ht
  refine ⟨hall.imp fun _ _ hkept => hkept.1, ?_⟩
  rintro ⟨record, t⟩ hp ⟨record', t'⟩ hq hmem hne hne' hid
  obtain ⟨hkept, hvalue⟩ := List.forall₂_zip hall hp
  obtain ⟨hkept', hvalue'⟩ := List.forall₂_zip hall hq
  obtain ⟨v, hv⟩ := hvalue hmem
  obtain ⟨w, hw⟩ := hvalue' hmem
  have hvw : v = w := by
    refine eq_of_keptText_eq hv hw ?_
    rw [← hkept.id hmem hne, ← hkept'.id hmem hne']
    exact hid
  exact ⟨v, writes_of_cell hv, hvw ▸ writes_of_cell hw⟩

/-- A statement with two rows that write the id 7 in two ways. -/
def sevens : String := "id,date,description,amount\n007,2025-01-31,12.50,1\n7,,Bar,2"

/-- The transactions of the two rows. -/
def sevensRead : List Transaction :=
  [{ id := "7", date := "2025-01-31", description := some "12.5", amount := .ofRatio false 1 1 },
    { id := "7", date := "", description := some "Bar", amount := .ofRatio false 2 1 }]

theorem load_sevens : load (fun _ => "") 0 sevens = (.ok sevensRead, 0) := by decide +kernel

/-- Both rows are kept, with the number 7 as their ids. -/
theorem keepsTexts_of_load_sevens :
    List.Forall₂ (KeepsTexts (headerNames sevens)) (keptRecords sevens) sevensRead :=
  (keepsTexts_of_load (by decide +kernel) load_sevens).1

/-- Neither are the cells kept as they are, nor do the ids of two rows differ if their cells do. -/
theorem not_verbatim_of_load :
    (¬∀ (mint : Mint) (minted n : Nat) (text : String) (ts : List Transaction),
      (headerNames text).Nodup → load mint minted text = (.ok ts, n) →
      ∀ p ∈ (keptRecords text).zip ts,
        p.2.description = some (String.ofList (cellUnder (headerNames text) p.1 "description")) ∧
        ("id" ∈ headerNames text → cellUnder (headerNames text) p.1 "id" ≠ [] →
          p.2.id = String.ofList (cellUnder (headerNames text) p.1 "id"))) ∧
    ¬∀ (mint : Mint) (minted n : Nat) (text : String) (ts : List Transaction),
      (headerNames text).Nodup → load mint minted text = (.ok ts, n) →
      ∀ p ∈ (keptRecords text).zip ts, ∀ q ∈ (keptRecords text).zip ts,
        "id" ∈ headerNames text →
        cellUnder (headerNames text) p.1 "id" ≠ [] → cellUnder (headerNames text) q.1 "id" ≠ [] →
        cellUnder (headerNames text) p.1 "id" ≠ cellUnder (headerNames text) q.1 "id" →
        p.2.id ≠ q.2.id := by
  have hnames : (headerNames sevens).Nodup := by decide +kernel
  constructor
  · intro hkept
    have hsevens := hkept _ 0 0 sevens sevensRead hnames load_sevens
    revert hsevens
    decide +kernel
  · intro hdiffer
    have hsevens := hdiffer _ 0 0 sevens sevensRead hnames load_sevens
    revert hsevens
    decide +kernel

end SpendingLedger.Statement

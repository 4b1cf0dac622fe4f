import SpendingLedger.Amount
import SpendingLedger.Calendar.Literal
import SpendingLedger.Log.Record
import SpendingLedger.Statement.Rows
import SpendingLedger.Transaction

/-!
# Transactions of a statement

Each row of a statement becomes a transaction without a category.  A row may bring its own id;
otherwise one is minted for it.

## Main definitions

* `Mint` — the ids to come.
* `Statement.transaction` — the transaction of a record.
* `Statement.transactions` — those of a sequence of records.
* `Statement.load` — those of the text of a statement.

## References

`SPEC_FULL.md`, section 4.9, *Ingestion*.
-/

namespace SpendingLedger

/-- A source of ids: the id that is minted as the n-th one, counted from zero. -/
abbrev Mint := Nat → String

namespace Statement

/-- Why a record is no transaction. -/
inductive RecordError
  | integerTooLong (e : Integer.TooLong)
  | misfit (e : Amount.Misfit)
  deriving DecidableEq

/-- The trimmed text of a value, empty for null. -/
def trimmedText : Value → Except Integer.TooLong String
  | .null => .ok ""
  | v => v.asText.map Text.trim

/-- The id that a record brings, empty if it brings none. -/
def ownId (record : Fields Value) : Except Integer.TooLong String :=
  trimmedText ((Fields.get? "id" record).getD .null)

/-- The transaction of a record under the id `id`. -/
def transactionNamed (id : String) (record : Fields Value) : Except RecordError Transaction :=
  match DateLiteral.ofValue ((Fields.get? "date" record).getD .null) with
  | .error e => .error (.integerTooLong e)
  | .ok date => match trimmedText ((Fields.get? "description" record).getD .null) with
    | .error e => .error (.integerTooLong e)
    | .ok description => match Amount.coerce ((Fields.get? "amount" record).getD .null) with
      | .error e => .error (.misfit e)
      | .ok amount => .ok { id, date, description := some description, amount }

/-- The transaction of a record after `minted` ids, and how many ids are minted then.  An id is
minted before the rest of the record is looked at. -/
def transaction (mint : Mint) (minted : Nat) (record : Fields Value) :
    Except RecordError Transaction × Nat :=
  match ownId record with
  | .error e => (.error (.integerTooLong e), minted)
  | .ok id =>
    if id.isEmpty then (transactionNamed (mint minted) record, minted + 1)
    else (transactionNamed id record, minted)

/-- The transactions of records up to the first that is none, and how many ids are minted then: the
specification's `to_transactions`. -/
def transactions (mint : Mint) (minted : Nat) : List (Fields Value) →
    Except RecordError (List Transaction) × Nat
  | [] => (.ok [], minted)
  | record :: rest => match transaction mint minted record with
    | (.error e, n) => (.error e, n)
    | (.ok t, n) =>
      let (ts, m) := transactions mint n rest
      (ts.map (t :: ·), m)

/-! ### Statements -/

/-- The columns that a statement must have. -/
def requiredColumns : List String := ["date", "description", "amount"]

/-- Why a statement cannot be loaded. -/
inductive LoadError
  | rows (e : RowError)
  | missingColumns (names : List String)
  | record (e : RecordError)
  deriving DecidableEq

/-- The required columns that a row does not have. -/
def missingColumns (row : Fields Value) : List String :=
  requiredColumns.filter fun c => (Fields.get? c row).isNone

/-- The transactions of the text of a statement, and how many ids are minted then: the
specification's `load_csv`.  Columns are looked for in the first row. -/
def load (mint : Mint) (minted : Nat) (text : String) :
    Except LoadError (List Transaction) × Nat :=
  match rows text with
  | .error e => (.error (.rows e), minted)
  | .ok rs =>
    match rs.head?.map missingColumns with
    | some (c :: cs) => (.error (.missingColumns (c :: cs)), minted)
    | _ =>
      let (ts, n) := transactions mint minted rs
      (ts.mapError .record, n)

/-- What is said of missing columns. -/
def missingColumnsMessage (names : List String) : String :=
  String.join ["CSV header is missing columns: ", String.intercalate ", " names]

/-- The record of a statement that was loaded. -/
def loadedRecord (count : Nat) (path : String) : LogRecord :=
  .info "spending_analysis.ingest" s!"Loaded {count} transactions from {path}"

end Statement

end SpendingLedger

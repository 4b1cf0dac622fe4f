import SpendingLedger.Category.Resolve
import SpendingLedger.Query.Filter
import SpendingLedger.Statement.Transactions
import SpendingLedger.Summary

/-!
# Ledgers

A ledger is a list of transactions.  Each operation gives a new ledger and leaves every other
transaction as it is and where it is.

## Main definitions

* `Ledger.add` — one more transaction at the end.
* `Ledger.update`, `Ledger.assign`, `Ledger.delete` — changes to the transaction with an id.
* `Ledger.recategorize` — a new search for the categories that are missing.
* `Ledger.search` — the transactions of a query with their totals.

## References

`SPEC_FULL.md`, section 4.11, *API orchestration*.
-/

namespace SpendingLedger

/-- The entries of a ledger in order. -/
abbrev Ledger := List Transaction

namespace Ledger

/-- The first transaction with the id `id`. -/
def find? (ledger : Ledger) (id : String) : Option Transaction :=
  List.find? (fun t => t.id == id) ledger

/-- Whether there is a transaction with the id `id`. -/
def hasId (ledger : Ledger) (id : String) : Bool := List.any ledger fun t => t.id == id

/-- The ledger with `f` applied to the first transaction with the id `id`, none if there is none. -/
def modifyFirst (id : String) (f : Transaction → Transaction) : Ledger → Option Ledger
  | [] => none
  | t :: rest =>
    if t.id = id then some (f t :: rest) else (modifyFirst id f rest).map (t :: ·)

/-- The ledger without the first transaction with the id `id`, none if there is none. -/
def deleteFirst (id : String) : Ledger → Option Ledger
  | [] => none
  | t :: rest => if t.id = id then some rest else (deleteFirst id rest).map (t :: ·)

/-! ### Changes -/

/-- The ledger with the transaction of the id of `updated` replaced by it, under the category of its
new description: the specification's `update_transaction`. -/
def update (ledger : Ledger) (updated : Transaction) (d : CategoryDictionary)
    (threshold : Binary64) : Option (Ledger × Transaction) :=
  let t := categorize d threshold updated
  (modifyFirst updated.id (fun _ => t) ledger).map (·, t)

/-- The ledger with the category of one transaction given by hand, the specification's
`assign_category`. -/
def assign (ledger : Ledger) (id category : String) : Option Ledger :=
  modifyFirst id (·.withCategory category) ledger

/-- The ledger without one transaction, the specification's `delete_transaction`. -/
def delete (ledger : Ledger) (id : String) : Option Ledger := deleteFirst id ledger

/-- A transaction as it is if it has a category, else with the one that is found for it. -/
def recategorizeOne (d : CategoryDictionary) (threshold : Binary64) (t : Transaction) :
    Transaction :=
  if t.isPending then categorize d threshold t else t

/-- Whether a category is found for a transaction that has none. -/
def gainsCategory (d : CategoryDictionary) (threshold : Binary64) (t : Transaction) : Bool :=
  t.isPending && (categorize d threshold t).category ≠ some uncategorized

/-- The ledger with a new search for the categories that are missing, and how many were found: the
specification's `recategorize_uncategorized`. -/
def recategorize (ledger : Ledger) (d : CategoryDictionary) (threshold : Binary64) :
    Ledger × Nat :=
  (ledger.map (recategorizeOne d threshold), List.countP (gainsCategory d threshold) ledger)

/-- Why a record is not added. -/
inductive AddError
  | record (e : Statement.RecordError)
  /-- The ledger has a transaction with the id. -/
  | idTaken (id : String)
  deriving DecidableEq

/-- What is said of an id that is taken. -/
def idTakenMessage (id : String) : String :=
  String.join ["transaction id already in the ledger: ", Text.quote id]

/-- The ledger with the transaction of a record at its end, that transaction, and how many ids are
minted then: the specification's `add_transaction`. -/
def add (ledger : Ledger) (record : Fields Value) (d : CategoryDictionary) (threshold : Binary64)
    (mint : Mint) (minted : Nat) : Except AddError (Ledger × Transaction) × Nat :=
  match Statement.transaction mint minted record with
  | (.error e, n) => (.error (.record e), n)
  | (.ok t, n) =>
    if ledger.hasId t.id then (.error (.idTaken t.id), n)
    else
      let added := categorize d threshold t
      (.ok (List.append ledger [added], added), n)

/-- The transactions that satisfy a query, and their totals: the specification's `search`. -/
def search (today : Date) (ledger : Ledger) (query : String) :
    Except Query.QueryError (List Transaction × Totals) :=
  (Query.filter today query ledger).map fun ts => (ts, Totals.ofTransactions ts)

/-! ### What is logged -/

/-- The record that a transaction was added. -/
def addedRecord (added : Transaction) : LogRecord :=
  let category := added.category.getD ""
  .info "spending_analysis.api" s!"Added transaction {added.id} as {Text.quote category}"

/-- The record that transactions were categorized. -/
def categorizedRecord (count : Nat) : LogRecord :=
  .info "spending_analysis.api" s!"Categorized {count} transactions"

/-- The records of a new search for missing categories. -/
def recategorizeRecords (ledger : Ledger) (d : CategoryDictionary) (threshold : Binary64) :
    List LogRecord :=
  (List.filter (·.isPending) ledger).flatMap (categorizeRecords d threshold)

end Ledger

end SpendingLedger

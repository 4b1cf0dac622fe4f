import SpendingLedger.Amount
import SpendingLedger.Transaction

/-!
# Totals by category

The amounts of the entries of each category are added up in order, from zero.  The totals stand in
the order in which their categories first appear.

## Main definitions

* `Totals` — totals by category, in order.
* `Totals.add` — one amount added to the total of its category.
* `Totals.ofItems`, `Totals.ofTransactions` — the totals of items of any kind, and of transactions.

## References

`SPEC_FULL.md`, section 4.7, *Aggregator*.
-/

namespace SpendingLedger

/-- Totals by category in the order of first appearance. -/
abbrev Totals := Fields Binary64

namespace Totals

/-- `totals` with an amount added to the total of a category. -/
def add (totals : Totals) (category : String) (amount : Binary64) : Totals :=
  totals.insert category (((totals : Fields Binary64).get? category).getD .zero + amount)

/-- Something with a category and an amount, each of any kind. -/
structure Item where
  category : Value
  amount : Value

/-- The category under which an item is counted, none if what it has is something but no text. -/
def Item.categoryName? (i : Item) : Option String :=
  if i.category.isNothing then some uncategorized
  else match i.category with
    | .text c => some c
    | _ => none

/-- A transaction as an item. -/
def Item.ofTransaction (t : Transaction) : Item :=
  ⟨t.category.elim .null .text, .float t.amount⟩

/-- A table as an item. -/
def Item.ofFields (fields : Fields Value) : Item :=
  ⟨(Fields.get? "category" fields).getD .null, (Fields.get? "amount" fields).getD .null⟩

/-- Why an item is not counted. -/
inductive Refusal
  /-- Its category is no text. -/
  | category
  /-- Its amount has no number. -/
  | amount (e : Amount.Misfit)
  deriving DecidableEq

/-- The totals after one more item. -/
def addItem (totals : Totals) (i : Item) : Except Refusal Totals :=
  match i.categoryName? with
  | none => .error .category
  | some name => ((Amount.coerce i.amount).map (totals.add name)).mapError .amount

/-- The totals of a sequence of items, the specification's `summarize_by_category`. -/
def ofItems (items : List Item) : Except Refusal Totals := items.foldlM addItem []

/-- The totals of transactions; infinite amounts count as zero. -/
def ofTransactions (ts : List Transaction) : Totals :=
  ts.foldl (fun totals t => totals.add t.categoryName (Amount.finiteOrZero t.amount)) []

theorem Item.categoryName?_of_null {i : Item} (h : i.category = .null) :
    i.categoryName? = some uncategorized := by
  rw [Item.categoryName?, h]
  rfl

theorem Item.categoryName?_of_text {i : Item} {c : String} (h : i.category = .text c) :
    i.categoryName? = some (if c = "" then uncategorized else c) := by
  rw [Item.categoryName?, h]
  by_cases hc : c = "" <;> simp [Value.isNothing, hc]

/-- A transaction is counted under its category as an item is. -/
theorem Item.categoryName?_ofTransaction (t : Transaction) :
    (Item.ofTransaction t).categoryName? = some t.categoryName := by
  unfold Transaction.categoryName
  cases hc : t.category with
  | none => exact Item.categoryName?_of_null (by rw [Item.ofTransaction, hc]; rfl)
  | some c => exact Item.categoryName?_of_text (by rw [Item.ofTransaction, hc]; rfl)

end Totals

end SpendingLedger

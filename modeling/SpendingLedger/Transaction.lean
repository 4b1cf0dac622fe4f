import SpendingLedger.Number.Binary64

/-!
# Transactions

A transaction is one entry of a ledger, and a ledger is a list of them.  A transaction has no
category until one is found for it or given by hand; the name `uncategorized` stands for having
looked for one in vain.

## References

`SPEC_FULL.md`, section 3, *Data Model*.
-/

namespace SpendingLedger

/-- The category of a transaction for which no category was found. -/
def uncategorized : String := "Uncategorized"

/-- An entry of a ledger. -/
structure Transaction where
  /-- What tells the entry from every other entry of its ledger. -/
  id : String
  /-- The day, in the form `YYYY-MM-DD` when it was recognized as one. -/
  date : String
  description : Option String
  amount : Binary64
  category : Option String := none
  deriving DecidableEq

namespace Transaction

/-- The description, empty when there is none. -/
def descriptionText (t : Transaction) : String := t.description.getD ""

/-- Whether a name stands for no category: it is absent, empty or `uncategorized`. -/
def isPendingName : Option String → Bool
  | none => true
  | some c => c = "" || c = uncategorized

/-- Whether the entry still has no category. -/
def isPending (t : Transaction) : Bool := isPendingName t.category

/-- The name under which the entry is counted: its category, or `uncategorized` when that is absent
or empty. -/
def categoryName (t : Transaction) : String :=
  match t.category with
  | none => uncategorized
  | some c => if c = "" then uncategorized else c

/-- The entry with its category replaced. -/
def withCategory (t : Transaction) (category : String) : Transaction :=
  { t with category := some category }

@[simp] theorem id_withCategory (t : Transaction) (c : String) : (t.withCategory c).id = t.id := rfl

@[simp] theorem date_withCategory (t : Transaction) (c : String) :
    (t.withCategory c).date = t.date := rfl

@[simp] theorem description_withCategory (t : Transaction) (c : String) :
    (t.withCategory c).description = t.description := rfl

@[simp] theorem amount_withCategory (t : Transaction) (c : String) :
    (t.withCategory c).amount = t.amount := rfl

@[simp] theorem category_withCategory (t : Transaction) (c : String) :
    (t.withCategory c).category = some c := rfl

end Transaction

end SpendingLedger

import SpendingLedger.Amount
import SpendingLedger.Category.Dictionary
import SpendingLedger.Transaction

/-!
# Shapes of stored values

A stored ledger is a list of objects with an id each, and a stored dictionary is an object of lists
of texts.  Everything that is not as it should be is found, in order, with the path to it.

## Main definitions

* `Finding` — something that is not as it should be.
* `Shape.transactions` — the transactions of a stored value.
* `Shape.dictionary` — the dictionary of a stored value.
* `Shape.ofTransactions`, `Shape.ofDictionary` — the values to be stored.

## References

`SPEC_FULL.md`, sections 3, *Data Model*, and 4.10, *Persistence*.
-/

namespace SpendingLedger

/-- The ways in which a stored value is not as it should be. -/
inductive FindingKind
  | notList
  | notTable
  /-- An item of a ledger is no object. -/
  | notRecord
  /-- An item has no id. -/
  | missing
  /-- An id is null or blank. -/
  | blankId
  | notText
  deriving DecidableEq

/-- Something that is not as it should be, and the names and numbers on the way to it. -/
structure Finding where
  path : List String
  kind : FindingKind
  deriving DecidableEq

namespace Shape

/-! ### Transactions -/

/-- A text without white space at both ends. -/
def trimWhite (s : String) : String := String.ofList (Text.trimBy Text.isWhite s.toList)

/-- The text of a value, empty if it has none. -/
def textOf (v : Value) : String := v.asText.toOption.getD ""

/-- The id of an item, or what is wrong with it. -/
def id (item : Fields Value) : Except FindingKind String :=
  match Fields.get? "id" item with
  | none => .error .missing
  | some .null => .error .blankId
  | some (.text s) => if Text.isBlank s then .error .blankId else .ok (trimWhite s)
  | some v => .ok (trimWhite (textOf v))

/-- The trimmed text under a name, empty if it is null or absent. -/
def optionalText (name : String) (item : Fields Value) : String :=
  match Fields.get? name item with
  | none | some .null => ""
  | some v => trimWhite (textOf v)

/-- The category of an item, none if it is null, absent or blank, or what is wrong with it. -/
def category (item : Fields Value) : Except FindingKind (Option String) :=
  match Fields.get? "category" item with
  | none | some .null => .ok none
  | some (.text s) => .ok (if trimWhite s = "" then none else some (trimWhite s))
  | some _ => .error .notText

/-- The transaction of an item at a place of the list, or what is wrong with it, by the shape of the
specification's `TransactionModel`. -/
def transaction (place : Nat) (amount : Binary64) (item : Fields Value) :
    Except (List Finding) Transaction :=
  let found (name : String) (kind : FindingKind) : Finding := ⟨[toString place, name], kind⟩
  match id item, category item with
  | .ok id, .ok category => .ok
      { id
        date := optionalText "date" item
        description := some (optionalText "description" item)
        amount
        category }
  | .error k, .ok _ => .error [found "id" k]
  | .ok _, .error k => .error [found "category" k]
  | .error k, .error k' => .error [found "id" k, found "category" k']

/-- The item at a place of the list; an amount that has no number stops the reading. -/
def item (place : Nat) : Value → Except Amount.Misfit (Except (List Finding) Transaction)
  | .table fields =>
    (Amount.coerce ((Fields.get? "amount" fields).getD .null)).map fun amount =>
      transaction place amount fields
  | _ => .ok (.error [⟨[toString place], .notRecord⟩])

/-- Two results, with the findings of both. -/
def combine (first : Except (List Finding) Transaction)
    (rest : Except (List Finding) (List Transaction)) :
    Except (List Finding) (List Transaction) :=
  match first, rest with
  | .ok t, .ok ts => .ok (t :: ts)
  | .ok _, .error fs => .error fs
  | .error fs, .ok _ => .error fs
  | .error fs, .error gs => .error (fs ++ gs)

/-- The items of a list from a place on. -/
def itemsFrom (place : Nat) : List Value →
    Except Amount.Misfit (Except (List Finding) (List Transaction))
  | [] => .ok (.ok [])
  | v :: vs => match item place v with
    | .error e => .error e
    | .ok first => (itemsFrom (place + 1) vs).map (combine first)

/-- The transactions of a stored value. -/
def transactions : Value → Except Amount.Misfit (Except (List Finding) (List Transaction))
  | .list items => itemsFrom 0 items
  | _ => .ok (.error [⟨[], .notList⟩])

/-- A text or null. -/
def ofOptional : Option String → Value
  | none => .null
  | some s => .text s

/-- A transaction as a value. -/
def ofTransaction (t : Transaction) : Value :=
  .table [("id", .text t.id), ("date", .text t.date), ("description", ofOptional t.description),
    ("amount", .float t.amount), ("category", ofOptional t.category)]

/-- Transactions as a value. -/
def ofTransactions (ts : List Transaction) : Value := .list (ts.map ofTransaction)

/-! ### Dictionaries -/

/-- The texts of a list from a place on, under a name. -/
def keywordsFrom (name : String) (place : Nat) : List Value → Except (List Finding) (List String)
  | [] => .ok []
  | .text s :: vs => (keywordsFrom name (place + 1) vs).map (s :: ·)
  | _ :: vs =>
    let finding : Finding := ⟨[name, toString place], .notText⟩
    match keywordsFrom name (place + 1) vs with
    | .ok _ => .error [finding]
    | .error fs => .error (finding :: fs)

/-- The category of a member of an object. -/
def entry (name : String) : Value → Except (List Finding) CategoryEntry
  | .list items => (keywordsFrom name 0 items).map (⟨name, ·⟩)
  | _ => .error [⟨[name], .notList⟩]

/-- The categories of the members of an object. -/
def entries : Fields Value → Except (List Finding) (List CategoryEntry)
  | [] => .ok []
  | (name, v) :: rest => match entry name v, entries rest with
    | .ok e, .ok es => .ok (e :: es)
    | .ok _, .error fs => .error fs
    | .error fs, .ok _ => .error fs
    | .error fs, .error gs => .error (fs ++ gs)

/-- The categories of a stored value. -/
def dictionary : Value → Except (List Finding) (List CategoryEntry)
  | .table fields => entries fields
  | _ => .error [⟨[], .notTable⟩]

/-- A dictionary as a value. -/
def ofDictionary (d : CategoryDictionary) : Value :=
  .table (d.entries.map fun e => (e.name, .list (e.keywords.map .text)))

end Shape

end SpendingLedger

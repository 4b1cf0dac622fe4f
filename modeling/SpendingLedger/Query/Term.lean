import SpendingLedger.Calendar.FreeForm
import SpendingLedger.Calendar.Literal
import SpendingLedger.Query.Comparison
import SpendingLedger.Query.Error
import SpendingLedger.Text.Search
import SpendingLedger.Transaction

/-!
# Conditions on one transaction

A term of a query is a condition on a transaction.  Amounts are compared as numbers, dates by day,
description and category as texts in letters of either case.  A term that is no comparison is a word
to be found in the description.

## Main definitions

* `day` — the day that a text writes.
* `mentions` — whether a text holds a word.
* `Comparison.eval` — the truth value of a comparison.
* `evalTerm` — the truth value of a term.

## References

`SPEC_FULL.md`, section 4.3, *Predicate Evaluator*.
-/

namespace SpendingLedger.Query

/-- The day that `s` writes as a literal or in another way, when today is `today`. -/
def day (today : Date) (s : String) : Except Fault Date :=
  let unrecognized : Except Fault Date := .error (.unrecognizedDate s)
  match DateLiteral.read s with
  | .day d => .ok d
  | .impossible => unrecognized
  | .otherText => match Calendar.FreeForm.parse today (Text.trim s) with
    | .ok d => .ok d
    | .error .noDate => unrecognized
    | .error .tooManyDigits => .error (.overlongDate s)

/-- The finite number that the value of an amount writes; digits are not grouped here. -/
def number (value : String) : Except Fault Binary64 :=
  let refused : Except Fault Binary64 := .error (.notANumber value)
  if value.toList.contains '_' then refused
  else match Binary64.parse? value with
    | some x => if x.isFinite then .ok x else refused
    | none => refused

/-- Whether `description` holds `term` as a word, in letters of either case. -/
def mentions (term description : String) : Bool :=
  Text.occursAsWord (Text.lowerChars term.toList) (Text.lowerChars description.toList)

/-! ### Comparators -/

/-- What a comparator means for amounts, if it applies to them. -/
def Comparator.onAmounts? : Comparator → Option (Binary64 → Binary64 → Bool)
  | .less => some Binary64.lt
  | .atMost => some Binary64.le
  | .greater => some fun x y => y.lt x
  | .atLeast => some fun x y => y.le x
  | .equals => some Binary64.numEq
  | .differs => some fun x y => !x.numEq y
  | _ => none

/-- What a comparator means for days, if it applies to them. -/
def Comparator.onDates? : Comparator → Option (Date → Date → Bool)
  | .less => some fun a b => (a.order b).isLT
  | .atMost => some fun a b => (a.order b).isLE
  | .greater => some fun a b => (a.order b).isGT
  | .atLeast => some fun a b => (a.order b).isGE
  | .equals => some fun a b => (a.order b).isEq
  | .differs => some fun a b => !(a.order b).isEq
  | _ => none

/-- What a comparator means for texts, if it applies to them. -/
def Comparator.onTexts? : Comparator → Option (List Char → List Char → Bool)
  | .contains => some fun text value => Text.occursIn value text
  | .equals => some fun text value => text == value
  | .differs => some fun text value => text != value
  | .startsWith => some fun text value => value.isPrefixOf text
  | .endsWith => some fun text value => value.isSuffixOf text
  | _ => none

/-! ### Conditions -/

/-- The condition on the amount. -/
def amountCondition (op : Comparator) (value : String) (t : Transaction) : Except Fault Bool :=
  match op.onAmounts? with
  | none => .error (.comparatorMisapplied op.text "amount")
  | some holds => (number value).map (holds t.amount)

/-- The condition on the date.  The transaction's own date is read first. -/
def dateCondition (today : Date) (op : Comparator) (value : String) (t : Transaction) :
    Except Fault Bool :=
  match op.onDates? with
  | none => .error (.comparatorMisapplied op.text "date")
  | some holds => (day today t.date).bind fun a => (day today value).map (holds a)

/-- The condition on a text of the transaction, the one of the field `field`. -/
def textCondition (op : Comparator) (field value text : String) : Except Fault Bool :=
  match op.onTexts? with
  | none => .error (.comparatorMisapplied op.text field)
  | some holds => .ok (holds (Text.lowerChars text.toList) (Text.lowerChars value.toList))

/-- The truth value of a comparison for a transaction. -/
def Comparison.eval (today : Date) (c : Comparison) (t : Transaction) : Except Fault Bool :=
  let field := Text.lower c.field
  let value := Text.trim c.value
  if field = "amount" then amountCondition c.comparator value t
  else if field = "date" then dateCondition today c.comparator value t
  else if field = "description" then textCondition c.comparator field value t.descriptionText
  else if field = "category" then textCondition c.comparator field value (t.category.getD "")
  else .error (.unknownField field)

/-- The truth value of a term for a transaction, the specification's `evaluate_term`. -/
def evalTerm (today : Date) (term : String) (t : Transaction) : Except Fault Bool :=
  match Comparison.ofText? term with
  | some c => c.eval today t
  | none => .ok (mentions term t.descriptionText)

end SpendingLedger.Query

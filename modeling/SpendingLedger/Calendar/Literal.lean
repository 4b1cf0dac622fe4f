import SpendingLedger.Calendar.Date
import SpendingLedger.Value

/-!
# Date literals

The two forms in which a day is recognized without doubt: `YYYY-MM-DD` and `M/D/YYYY`, in the
decimal digits of any script and with space around them.

## Main definitions

* `DateLiteral.read` — the day a text writes in one of the two forms.
* `DateLiteral.normalize` — a text with such a day brought to the form `YYYY-MM-DD`.

## References

`SPEC_FULL.md`, sections 4.3, *Predicate Evaluator*, and 4.9, *Ingestion*.
-/

namespace SpendingLedger

/-- What a text is as a date literal. -/
inductive DateLiteral
  /-- It has neither of the two forms. -/
  | otherText
  /-- It has one of the forms but there is no such day. -/
  | impossible
  /-- It writes a day. -/
  | day (date : Date)
  deriving DecidableEq

namespace DateLiteral

/-- The day with the numbers that three runs of digits write. -/
def ofDigits (year month day : List Char) : DateLiteral :=
  let value (cs : List Char) := digitsValue (commonDigits cs)
  match Date.of? (value year) (value month) (value day) with
  | some d => .day d
  | none => .impossible

/-- Whether `cs` is made of digits, between `least` and `most` of them. -/
def isNumber (least most : Nat) (cs : List Char) : Bool :=
  cs.all Text.isDecimalDigit && least ≤ cs.length && cs.length ≤ most

/-- The literal `YYYY-MM-DD`. -/
def readIso (cs : List Char) : DateLiteral :=
  match Text.pieces (· == '-') cs with
  | [y, m, d] =>
    if isNumber 4 4 y && isNumber 2 2 m && isNumber 2 2 d then ofDigits y m d
    else .otherText
  | _ => .otherText

/-- The literal `M/D/YYYY`. -/
def readSlashed (cs : List Char) : DateLiteral :=
  match Text.pieces (· == '/') cs with
  | [m, d, y] =>
    if isNumber 1 2 m && isNumber 1 2 d && isNumber 4 4 y then ofDigits y m d
    else .otherText
  | _ => .otherText

/-- The literal in either form. -/
def readChars (cs : List Char) : DateLiteral :=
  match readIso cs with
  | .otherText => readSlashed cs
  | r => r

/-- The literal that `s` is. -/
def read (s : String) : DateLiteral := readChars (Text.trimChars s.toList)

/-- `s` without space around it, and in the form `YYYY-MM-DD` if it writes a day: the
specification's `normalize_date`. -/
def normalize (s : String) : String :=
  match read s with
  | .day d => d.iso
  | _ => Text.trim s

/-- The date of a value: its text, normalized; nothing for null. -/
def ofValue : Value → Except Integer.TooLong String
  | .null => .ok ""
  | v => v.asText.map normalize

end DateLiteral

end SpendingLedger

import SpendingLedger.Csv.Reader
import SpendingLedger.Value

/-!
# Rows of a statement

A bank statement is a table of comma-separated records under a header.  Names and cells are trimmed,
and a cell that writes a number is taken as one.

## Main definitions

* `Statement.cell` — the value of a cell.
* `Statement.row` — a record under a header.
* `Statement.rows` — the rows of a text.

## References

`SPEC_FULL.md`, section 4.9, *Ingestion*.
-/

namespace SpendingLedger.Statement

/-- Why a statement has no rows. -/
inductive RowError
  | csv (e : Csv.Error)
  | integerTooLong (e : Integer.TooLong)
  deriving DecidableEq

/-- Whether `cs` writes an integer: digits of any script behind an optional sign. -/
def isInteger (cs : List Char) : Bool :=
  let digits := (takeSign cs).2
  !digits.isEmpty && digits.all Text.isDecimalDigit

/-- The value of a trimmed cell: an integer, a finite number, or else its text.  Digits are not
grouped by underscores. -/
def cell (cs : List Char) : Except Integer.TooLong Value :=
  if cs.isEmpty || cs.contains '_' then .ok (.text (String.ofList cs))
  else if isInteger cs then
    let (negative, digits) := takeSign cs
    (Integer.ofDigits negative (commonDigits digits)).map .int
  else match Binary64.parse? (String.ofList cs) with
    | some x => .ok (if x.isFinite then .float x else .text (String.ofList cs))
    | none => .ok (.text (String.ofList cs))

/-- Whether a record holds nothing but space. -/
def isBlankRecord (record : Csv.Record) : Bool := record.all (·.all Text.isSpace)

/-- The names of a header. -/
def header (record : Csv.Record) : List String :=
  record.map fun cs => String.ofList (Text.trimChars cs)

/-- The cells of a record under `n` names: cells that are missing at the end are empty, and those
without a name are left out. -/
def cells (n : Nat) (record : Csv.Record) : List (List Char) :=
  (record.map Text.trimChars ++ List.replicate (n - record.length) []).take n

/-- A record under a header.  The last cell under a name counts. -/
def row (names : List String) (record : Csv.Record) : Except Integer.TooLong (Fields Value) :=
  ((cells names.length record).mapM cell).map fun values => Fields.ofList (names.zip values)

/-- The rows under a header, without the blank ones. -/
def body (names : List String) (records : List Csv.Record) :
    Except Integer.TooLong (List (Fields Value)) :=
  (records.filter (!isBlankRecord ·)).mapM (row names)

/-- The rows of a text, the specification's `parse_csv_text`.  The errors of records come before the
error that ends the records. -/
def rows (text : String) : Except RowError (List (Fields Value)) :=
  let (records, stop) := Csv.read (Text.trimChars text.toList)
  let found : Except Integer.TooLong (List (Fields Value)) := match records with
    | [] => .ok []
    | first :: rest => body (header first) rest
  match found, stop with
  | .error e, _ => .error (.integerTooLong e)
  | .ok _, some e => .error (.csv e)
  | .ok rs, none => .ok rs

end SpendingLedger.Statement

/-!
# Comma-separated records

A text is read as records of fields.  Commas separate fields and line ends separate records; a field
that begins with a quote may hold both, and a quote in it is written twice.  The reader is lenient:
what follows a closing quote belongs to the field, and a quote that is still open at the end is
closed there.

## Main definitions

* `Csv.Mode`, `Csv.Reader` — where the reader is, and what it has read.
* `Csv.Reader.feed` — one more character.
* `Csv.read` — the records of a text, up to the first error.
-/

namespace SpendingLedger.Csv

/-- Why a text cannot be read further. -/
inductive Error
  /-- A field is longer than `fieldLimit`. -/
  | fieldTooLong
  /-- A carriage return outside quotes does not end its line. -/
  | strayReturn
  deriving DecidableEq

/-- The greatest number of characters in a field. -/
def fieldLimit : Nat := 131072

/-- What is said of a text that cannot be read further. -/
def Error.message : Error → String
  | .fieldTooLong => String.join ["field larger than field limit (", toString fieldLimit, ")"]
  | .strayReturn =>
    String.join ["new-line character seen in unquoted field",
      " - do you need to open the file with newline=''?"]

/-- Where the reader is. -/
inductive Mode
  | recordStart
  | fieldStart
  | plain
  | quoted
  /-- Behind a quote inside quotes, which ends the quotes or is the first half of a quote. -/
  | quoteSeen
  /-- Behind the carriage return or the line feed that ends a record. -/
  | lineEnd
  deriving DecidableEq

/-- A record is a list of fields. -/
abbrev Record := List (List Char)

/-- The state of the reader.  Fields, records and characters are kept with the latest first. -/
structure Reader where
  mode : Mode := .recordStart
  field : List Char := []
  fields : List (List Char) := []
  records : List Record := []

namespace Reader

/-- The reader with `c` added to its field. -/
def add (r : Reader) (mode : Mode) (c : Char) : Reader := { r with mode, field := c :: r.field }

/-- The reader with its field finished. -/
def save (r : Reader) (mode : Mode) : Except Error Reader :=
  if fieldLimit < r.field.length then .error .fieldTooLong
  else .ok { r with mode, field := [], fields := r.field.reverse :: r.fields }

/-- The reader with its record finished. -/
def emit (r : Reader) : Reader :=
  { r with mode := .recordStart, fields := [], records := r.fields.reverse :: r.records }

/-- The reader at the start of a field after the character `c`. -/
def beginField (r : Reader) (c : Char) : Except Error Reader :=
  if c = '\n' ∨ c = '\r' then r.save .lineEnd
  else if c = '"' then .ok { r with mode := .quoted }
  else if c = ',' then r.save .fieldStart
  else .ok (r.add .plain c)

/-- The reader after the character `c`, not counting that a line may end behind it. -/
def step (r : Reader) (c : Char) : Except Error Reader :=
  match r.mode with
  | .recordStart =>
    -- an empty line is a record without fields
    if c = '\n' ∨ c = '\r' then .ok { r with mode := .lineEnd } else r.beginField c
  | .fieldStart => r.beginField c
  | .plain =>
    if c = '\n' ∨ c = '\r' then r.save .lineEnd
    else if c = ',' then r.save .fieldStart
    else .ok (r.add .plain c)
  | .quoted => .ok (if c = '"' then { r with mode := .quoteSeen } else r.add .quoted c)
  | .quoteSeen =>
    if c = '"' then .ok (r.add .quoted c)
    else if c = ',' then r.save .fieldStart
    else if c = '\n' ∨ c = '\r' then r.save .lineEnd
    -- the quotes are closed, and the field goes on without them
    else .ok (r.add .plain c)
  | .lineEnd => if c = '\n' ∨ c = '\r' then .ok r else .error .strayReturn

/-- The reader at the end of a line.  Quotes that are open stay open. -/
def endLine (r : Reader) : Except Error Reader :=
  match r.mode with
  | .recordStart | .lineEnd => .ok r.emit
  | .quoted => .ok r
  | .fieldStart | .plain | .quoteSeen => (r.save .lineEnd).map emit

/-- The reader after the character `c`; a line ends behind each line feed. -/
def feed (r : Reader) (c : Char) : Except Error Reader :=
  if c = '\n' then (r.step c).bind endLine else r.step c

/-- The reader after a text, or at the place of the first error in it. -/
def run (r : Reader) : List Char → Reader × Option Error
  | [] => (r, none)
  | c :: cs => match r.feed c with
    | .ok r' => run r' cs
    | .error e => (r, some e)

/-- The reader at the end of the text, where quotes that are open are closed. -/
def finish (r : Reader) : Except Error Reader :=
  match r.mode with
  | .recordStart => .ok r
  | .quoted => (r.save .lineEnd).map emit
  | _ => r.endLine

end Reader

/-- The records of a text, and the error that ends them before the end of the text. -/
def read (cs : List Char) : List Record × Option Error :=
  match Reader.run {} cs with
  | (r, some e) => (r.records.reverse, some e)
  | (r, none) => match r.finish with
    | .ok finished => (finished.records.reverse, none)
    | .error e => (r.records.reverse, some e)

end SpendingLedger.Csv

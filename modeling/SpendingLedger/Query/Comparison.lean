import SpendingLedger.Text.Space

/-!
# Field comparisons

A term that begins with letters and a comparator, followed by a value, compares a field of a
transaction with that value.

## Main definitions

* `Comparator` — the nine comparators.
* `Comparison`, `Comparison.ofChars?` — a comparison and the text it is read from.

## References

`SPEC_FULL.md`, section 4.3, *Predicate Evaluator*.
-/

namespace SpendingLedger.Query

/-- How a field is compared with a value. -/
inductive Comparator
  | atMost
  | atLeast
  | differs
  | equals
  | less
  | greater
  | startsWith
  | endsWith
  | contains
  deriving DecidableEq

namespace Comparator

/-- The characters that write a comparator. -/
def text : Comparator → String
  | .atMost => "<="
  | .atLeast => ">="
  | .differs => "!="
  | .equals => "="
  | .less => "<"
  | .greater => ">"
  | .startsWith => "^="
  | .endsWith => "$="
  | .contains => ":"

/-- All comparators, each before those whose text begins its own. -/
def all : List Comparator :=
  [.atMost, .atLeast, .differs, .equals, .less, .greater, .startsWith, .endsWith, .contains]

theorem mem_all (op : Comparator) : op ∈ all := by
  cases op <;> decide

end Comparator

/-- A field comparison as it is written. -/
structure Comparison where
  field : String
  comparator : Comparator
  value : String
  deriving DecidableEq

namespace Comparison

/-- Whether `c` is an ASCII letter. -/
def isFieldChar (c : Char) : Bool := c.isAlpha

/-- `cs` without a line feed at its end. -/
def dropLastLineFeed (cs : List Char) : List Char :=
  if cs.getLast? = some '\n' then cs.dropLast else cs

/-- The value behind a comparator: what follows the space after it, on one line; none when nothing
follows. -/
def valueOf? (cs : List Char) : Option (List Char) :=
  let line := dropLastLineFeed (cs.dropWhile Text.isSpace)
  if line.isEmpty || line.contains '\n' then none else some line

/-- The value behind the comparator `op` at the head of `cs`. -/
def valueAfter? (op : Comparator) (cs : List Char) : Option (List Char) :=
  if op.text.toList.isPrefixOf cs then valueOf? (cs.drop op.text.toList.length) else none

/-- The first comparator at the head of `cs` with a value behind it, and that value. -/
def split? (cs : List Char) : Option (Comparator × List Char) :=
  Comparator.all.findSome? fun op => (valueAfter? op cs).map (op, ·)

/-- The comparison that `cs` writes. -/
def ofChars? (cs : List Char) : Option Comparison :=
  let field := cs.takeWhile isFieldChar
  if field.isEmpty then none
  else (split? ((cs.dropWhile isFieldChar).dropWhile Text.isSpace)).map fun (comparator, value) =>
    { field := String.ofList field, comparator, value := String.ofList value }

/-- The comparison that `s` writes. -/
def ofText? (s : String) : Option Comparison := ofChars? s.toList

end Comparison

end SpendingLedger.Query

import SpendingLedger.Text.Case
import SpendingLedger.Text.Quoted
import SpendingLedger.Text.Space
import SpendingLedger.Transaction

/-!
# Category names

A category is named by letters, digits, spaces and a few marks.  Names are compared without regard
to case and to the amount of space between their words.

## Main definitions

* `CategoryName.normalize` — a name with single spaces between its words.
* `CategoryName.key` — what names are compared by.
* `CategoryName.fault?` — what is wrong with a new name.

## References

`SPEC_FULL.md`, section 4.8, *Dictionary editing*.
-/

namespace SpendingLedger.CategoryName

/-- The words of a name with single spaces between them. -/
def normalizeChars (cs : List Char) : List Char := List.intercalate [' '] (Text.words cs)

/-- `name` with single spaces between its words and none around them, the specification's
`normalize_name`. -/
def normalize (name : String) : String := String.ofList (normalizeChars name.toList)

/-- What names are compared by: the normalized name in lower case. -/
def key (name : String) : String := Text.lower (normalize name)

/-- Whether `c` can stand in a name. -/
def isAllowed (c : Char) : Bool := c.isAlphanum || [' ', '&', '-', '/', '\''].contains c

/-- What can be wrong with a name. -/
inductive Fault
  | tooShort
  | tooLong (most : Int)
  | characters
  | reserved
  deriving DecidableEq

/-- What is said of a name that is refused. -/
def Fault.message : Fault → String
  | .tooShort => "Name cannot be empty"
  | .tooLong most => String.join ["Name must be at most ", toString most, " characters"]
  | .characters => "Only letters, numbers, spaces, and & - / ' are allowed"
  | .reserved => s!"{Text.quote uncategorized} is reserved"

/-- What is wrong with `name`, when a normalized name has at least `least` and at most `most`
characters: the refusals of the specification's `validate_name`. -/
def fault? (name : String) (least most : Int) : Option Fault :=
  let n := normalize name
  if (n.length : Int) < least then some .tooShort
  else if most < n.length then some (.tooLong most)
  else if n.isEmpty || !n.toList.all isAllowed then some .characters
  else if Text.lower n = Text.lower uncategorized then some .reserved
  else none

/-- The least number of characters of a name. -/
def leastLength : Int := 1

/-- The greatest number of characters of a name. -/
def greatestLength : Int := 64

end SpendingLedger.CategoryName

import SpendingLedger.Number.Numeral
import SpendingLedger.Number.Shortest

/-!
# Integers as text

Integers are read and written in at most `Integer.digitLimit` digits, leading zeros included; the
conversion of a longer one is refused.
-/

namespace SpendingLedger.Integer

/-- The greatest number of digits of an integer that is read or written. -/
def digitLimit : Nat := 4300

/-- Why an integer was not read or written: it has more digits than `digitLimit`. -/
structure TooLong where
  digits : Nat
  deriving DecidableEq

/-- What is said of an integer that is too long to be read. -/
def TooLong.message (e : TooLong) : String :=
  String.join ["Exceeds the limit (", toString digitLimit,
    " digits) for integer string conversion: value has ", toString e.digits,
    " digits; use sys.set_int_max_str_digits() to increase the limit"]

/-- The integer that digits from 0 to 9 write under a sign. -/
def ofDigits (negative : Bool) (digits : List Char) : Except TooLong Int :=
  if digitLimit < digits.length then .error ⟨digits.length⟩
  else .ok (if negative then -(digitsValue digits : Int) else digitsValue digits)

/-- The text of an integer without regard to its length. -/
def chars (n : Int) : List Char :=
  Binary64.withSign (n < 0) (natDigits n.natAbs)

/-- The text of an integer. -/
def text (n : Int) : Except TooLong String :=
  let size := (natDigits n.natAbs).length
  if digitLimit < size then .error ⟨size⟩ else .ok (String.ofList (chars n))

end SpendingLedger.Integer

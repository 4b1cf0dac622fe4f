import SpendingLedger.Number.Shortest

/-!
# Significant digits

A decimal of many digits is rounded to a few significant ones.  A decimal half-way between two of
them goes to the one whose last digit is even.

## Main definitions

* `Numeral.round` — a numeral with at most so many significant digits.
-/

namespace SpendingLedger.Numeral

/-- `x` rounded to `size` significant digits; one that has no more is kept. -/
def round (size : Nat) (x : Numeral) : Numeral :=
  let excess := (natDigits x.coefficient).length - size
  { x with
    coefficient := Binary64.roundDiv x.coefficient (powerOfTen excess)
    exponent := x.exponent + excess }

end SpendingLedger.Numeral

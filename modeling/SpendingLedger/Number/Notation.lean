import SpendingLedger.Number.Significant

/-!
# Notations of whole numbers

A whole number can be written in digits of base eight or sixteen, and as a decimal with a point in
one of three ways: with a fixed number of places, with one digit before the point and a power of ten
behind, or in whichever of the two ways is short.  Where a style asks for the long form, the
notation shows its base, and a point stands even without digits behind it.

## Main definitions

* `Notation.Style` — capital letters or not, long form or not.
* `Notation.octal`, `Notation.hexadecimal` — the digits of a base, and the mark of that base.
* `Notation.fixed`, `Notation.scientific`, `Notation.general` — the decimals with a point.
-/

namespace SpendingLedger.Notation

/-- How a notation is varied. -/
structure Style where
  capital : Bool
  long : Bool

/-- `c`, as a capital letter if the style asks for one. -/
def Style.letter (s : Style) (c : Char) : Char := if s.capital then c.toUpper else c

/-- `cs` filled up with zeros on the right to a width of at least `width`. -/
def padZeros (width : Nat) (cs : List Char) : List Char :=
  cs ++ List.replicate (width - cs.length) '0'

/-! ### Other bases -/

/-- The mark of a base and the digits of `n` in that base. -/
def based (s : Style) (mark : Char) (base n : Nat) : List Char × List Char :=
  (if s.long then ['0', s.letter mark] else [], (Nat.toDigits base n).map s.letter)

/-- `n` in base eight: the mark and the digits. -/
def octal (s : Style) (n : Nat) : List Char × List Char := based s 'o' 8 n

/-- `n` in base sixteen: the mark and the digits. -/
def hexadecimal (s : Style) (n : Nat) : List Char × List Char := based s 'x' 16 n

/-! ### Decimals with a point -/

/-- The first `size` significant digits of `n`, without zeros at the end, and how many digits stand
before the point. -/
def significant (size n : Nat) : List Char × Nat :=
  let rounded := Numeral.round size ⟨false, n, 0⟩
  let digits := natDigits rounded.coefficient
  (Text.trimRightBy (· == '0') digits, digits.length + rounded.exponent.toNat)

/-- The digits of a fraction behind a point; the point is left out when there are none, unless the
style asks for the long form. -/
def behindPoint (s : Style) (fraction : List Char) : List Char :=
  if fraction.isEmpty && !s.long then [] else '.' :: fraction

/-- `n` with `places` decimal places. -/
def fixed (s : Style) (places n : Nat) : List Char :=
  natDigits n ++ behindPoint s (List.replicate places '0')

/-- The decimal `d.igits * 10 ^ power`. -/
def withPower (s : Style) (digits : List Char) (power : Nat) : List Char :=
  digits.take 1 ++ behindPoint s (digits.drop 1)
    ++ s.letter 'e' :: '+' :: Text.padLeft '0' 2 (natDigits power)

/-- `n` with one digit before the point and `places` behind it. -/
def scientific (s : Style) (places n : Nat) : List Char :=
  let (digits, before) := significant (places + 1) n
  withPower s (padZeros (places + 1) digits) (before - 1)

/-- `n` in `size` significant digits, one at least.  Zeros at the end of a fraction are left out,
unless the style asks for the long form. -/
def general (s : Style) (size n : Nat) : List Char :=
  let size := max 1 size
  let (digits, before) := significant size n
  if before ≤ size then
    padZeros before digits
      ++ behindPoint s (if s.long then List.replicate (size - before) '0' else [])
  else withPower s (if s.long then padZeros size digits else digits) (before - 1)

end SpendingLedger.Notation

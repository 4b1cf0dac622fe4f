import SpendingLedger.Number.Numeral
import SpendingLedger.Text.Quoted

/-!
# Binary64 numbers in decimal digits

A number is printed in the fewest decimal digits that read back as that number, and of several
such decimals as the nearest one.  Amounts for people have a fixed number of decimal places.

## Main definitions

* `Binary64.shortest` — the coefficient and exponent of the shortest decimal of a magnitude.
* `Binary64.text` — a number in its shortest form, by the conventions of `NumberStyle`.
* `Binary64.fixed` — a number with a fixed number of decimal places.
-/

namespace SpendingLedger

/-- The digits of `n`. -/
def natDigits (n : Nat) : List Char := Nat.toDigits 10 n

/-- How numbers are written. -/
structure NumberStyle where
  /-- The least power of ten that is written without an exponent. -/
  leastPositional : Int
  /-- The least power of ten above those that is written with an exponent. -/
  leastScaled : Int
  /-- The least number of digits in an exponent. -/
  exponentDigits : Nat

namespace Binary64

/-- Numbers from `1e-4` up to, and not including, `1e16` are written without an exponent; an
exponent has a sign and at least two digits. -/
def style : NumberStyle := ⟨-4, 16, 2⟩

/-! ### Shortest digits -/

/-- The magnitude `units` as a coefficient of `10 ^ -1074`, exactly. -/
def scaled (units : Nat) : Nat := units * Nat.pow 5 1074

/-- Whether the decimal `coefficient * 10 ^ exponent` reads back as the magnitude `units`. -/
def readsBack (units coefficient : Nat) (exponent : Int) : Bool :=
  match (Numeral.mk false coefficient exponent).toBinary64 with
  | .finite _ u _ => u == units
  | _ => false

/-- A decimal of `size` digits that reads back as the magnitude `units`, none if there is none.
Of the two neighbours on the grid of that size the nearer one is taken if both read back, and of
two equally near ones the even one. -/
def ofSize (units size : Nat) : Option (Nat × Int) :=
  let exact := scaled units
  -- the grid: all but the first digits of the exact decimal are left out
  let drop := (natDigits exact).length - size
  let below := exact / powerOfTen drop
  let rest := 2 * (exact % powerOfTen drop)
  let exponent : Int := drop - 1074
  let lowReads := readsBack units below exponent
  let highReads := readsBack units (below + 1) exponent
  let lowIsNearer := rest < powerOfTen drop || (rest == powerOfTen drop && below % 2 == 0)
  if lowReads && (lowIsNearer || !highReads) then some (below, exponent)
  else if highReads then some (below + 1, exponent)
  else none

/-- The decimal of the fewest digits that reads back as the magnitude `units`.  Seventeen digits
always do; the exact decimal stands at the end. -/
def shortest (units : Nat) : Nat × Int :=
  ((List.range' 1 17).findSome? (ofSize units)).getD (scaled units, -1074)

/-! ### Layout -/

/-- The decimal `0.digits * 10 ^ point` without an exponent, with a digit on each side of the
point. -/
def positional (digits : List Char) (point : Int) : List Char :=
  if point ≤ 0 then "0.".toList ++ List.replicate (-point).toNat '0' ++ digits
  else
    let n := point.toNat
    if digits.length ≤ n then digits ++ List.replicate (n - digits.length) '0' ++ ".0".toList
    else digits.take n ++ '.' :: digits.drop n

/-- The decimal `d.igits * 10 ^ power` with an exponent of at least `width` digits. -/
def scientific (width : Nat) (digits : List Char) (power : Int) : List Char :=
  let mantissa := match digits with
    | [] => ['0']
    | [d] => [d]
    | d :: ds => d :: '.' :: ds
  mantissa ++ 'e' :: (if power < 0 then '-' else '+')
    :: Text.padLeft '0' width (natDigits power.natAbs)

/-- The magnitude `units` in its shortest form. -/
def magnitudeText (style : NumberStyle) (units : Nat) : List Char :=
  if units = 0 then "0.0".toList
  else
    let (coefficient, exponent) := shortest units
    let digits := natDigits coefficient
    let point := digits.length + exponent
    let digits := Text.trimRightBy (· == '0') digits
    if style.leastPositional ≤ point - 1 ∧ point - 1 < style.leastScaled then
      positional digits point
    else scientific style.exponentDigits digits (point - 1)

/-- `cs` behind a minus sign if `negative`. -/
def withSign (negative : Bool) (cs : List Char) : List Char :=
  if negative then '-' :: cs else cs

/-- The text of `x` in its shortest form. -/
def textChars : Binary64 → List Char
  | .nan => "nan".toList
  | .infinite s => withSign s "inf".toList
  | .finite s u _ => withSign s (magnitudeText style u)

/-- The text of `x` in its shortest form. -/
def text (x : Binary64) : String := String.ofList x.textChars

/-! ### Fixed places -/

/-- The decimal `n / 10 ^ places`. -/
def fixedMagnitude (places n : Nat) : List Char :=
  natDigits (n / powerOfTen places)
    ++ '.' :: Text.padLeft '0' places (natDigits (n % powerOfTen places))

/-- The text of `x` with `places` decimal places, one at least; a half goes to the even
neighbour. -/
def fixed (places : Nat) : Binary64 → String
  | .nan => "nan"
  | .infinite s => String.ofList (withSign s "inf".toList)
  | .finite s u _ =>
    String.ofList (withSign s (fixedMagnitude places (roundDiv (u * powerOfTen places) one)))

end Binary64

end SpendingLedger

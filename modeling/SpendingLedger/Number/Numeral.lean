import SpendingLedger.Number.Binary64
import SpendingLedger.Text.Digit
import SpendingLedger.Text.Space

/-!
# Decimal numerals

A numeral is an optional sign, digits with at most one point among them, and an optional power of
ten.  Its value is exact: a sign, a whole coefficient and an exponent.  The digits may come from
any script; they are brought to one script first.

## Main definitions

* `Numeral`, `Numeral.parse?` — numerals and their reader.
* `Numeral.toBinary64` — the nearest binary64 number.
* `Numeral.isOverlong` — the numerals with too many digits for one.
* `Binary64.parse?` — a binary64 number as text: a numeral, an infinity or no number.
-/

namespace SpendingLedger

/-- The value `coefficient * 10 ^ exponent` under a sign. -/
structure Numeral where
  negative : Bool
  coefficient : Nat
  exponent : Int
  deriving DecidableEq

/-! ### Digits -/

/-- `cs` with the decimal digits of every script replaced by those from 0 to 9. -/
def commonDigits (cs : List Char) : List Char :=
  cs.map fun c => match Text.decimalDigit? c with
    | some d => Char.ofNat (48 + d)
    | none => c

/-- The number that the digits `cs` write. -/
def digitsValue (cs : List Char) : Nat :=
  cs.foldl (fun n c => 10 * n + (c.toNat - 48)) 0

/-- The sign at the head of `cs`, and what follows it. -/
def takeSign : List Char → Bool × List Char
  | '+' :: cs => (false, cs)
  | '-' :: cs => (true, cs)
  | cs => (false, cs)

namespace Numeral

/-- The power of ten that `cs` writes: nothing, or the letter E and an integer. -/
def parsePower? : List Char → Option Int
  | [] => some 0
  | c :: cs =>
    if c = 'e' ∨ c = 'E' then
      let (negative, digits) := takeSign cs
      if digits.isEmpty || !digits.all Char.isDigit then none
      else some (if negative then -(digitsValue digits : Int) else digitsValue digits)
    else none

/-- The digits after a point at the head of `cs`, and what follows them. -/
def takeFraction : List Char → List Char × List Char
  | '.' :: cs => (cs.takeWhile Char.isDigit, cs.dropWhile Char.isDigit)
  | cs => ([], cs)

/-- The numeral that `cs` writes in the digits from 0 to 9. -/
def parse? (cs : List Char) : Option Numeral :=
  let (negative, body) := takeSign cs
  let whole := body.takeWhile Char.isDigit
  let (fraction, rest) := takeFraction (body.dropWhile Char.isDigit)
  if whole.isEmpty && fraction.isEmpty then none
  else (parsePower? rest).map fun power =>
    { negative
      coefficient := digitsValue (whole ++ fraction)
      exponent := power - fraction.length }

/-- The greatest number of digits from which a binary64 number is read. -/
def digitLimit : Nat := 1000000000

/-- Whether a numeral has too many digits for a binary64 number: behind its point, or in all
without the zeros at its head. -/
def isOverlong (cs : List Char) : Bool :=
  let body := (takeSign cs).2
  let whole := body.takeWhile Char.isDigit
  let fraction := (takeFraction (body.dropWhile Char.isDigit)).1
  digitLimit < fraction.length
    || digitLimit < ((whole ++ fraction).dropWhile (· == '0')).length

/-- The binary64 number nearest to a numeral.  A power of ten that is beyond the format whatever
the coefficient is not computed: above `10 ^ 400` only zero is finite, and a coefficient below
`2 ^ n` over a power of ten above `2 ^ (n + 1100)` is nearest to zero. -/
def toBinary64 (x : Numeral) : Binary64 :=
  if x.coefficient = 0 then .ofUnits x.negative 0
  else if 400 < x.exponent then .infinite x.negative
  else if x.coefficient.log2 + 1100 < 3 * (-x.exponent).toNat then .ofUnits x.negative 0
  else if x.exponent < 0 then .ofRatio x.negative x.coefficient (powerOfTen (-x.exponent).toNat)
  else .ofRatio x.negative (x.coefficient * powerOfTen x.exponent.toNat) 1

end Numeral

/-! ### Binary64 numbers as text -/

namespace Binary64

/-- The blanks that may surround a number: ASCII's own six, and the white space beyond ASCII. -/
def isPadding (c : Char) : Bool :=
  let n := c.toNat
  n = 0x20 || (9 ≤ n && n ≤ 13) || (0x80 ≤ n && Text.isSpace c)

/-- `cs` without the underscores that group its digits; none when an underscore stands elsewhere
than between two digits. -/
def dropGroupMarks (afterDigit : Bool) : List Char → Option (List Char)
  | [] => some []
  | '_' :: c :: cs =>
    if afterDigit && c.isDigit then (dropGroupMarks true cs).map (c :: ·) else none
  | c :: cs =>
    if c = '_' then none else (dropGroupMarks c.isDigit cs).map (c :: ·)

/-- The infinity or the absence of a number that `cs` names, in letters of either case. -/
def parseNamed? (cs : List Char) : Option Binary64 :=
  let (negative, name) := takeSign cs
  let name := name.map Char.toLower
  if name = "inf".toList ∨ name = "infinity".toList then some (.infinite negative)
  else if name = "nan".toList then some .nan
  else none

/-- The number that `s` writes, in digits of any script, with blanks around it and underscores
between its digits. -/
def parse? (s : String) : Option Binary64 := do
  let cs ← dropGroupMarks false (commonDigits (Text.trimBy isPadding s.toList))
  parseNamed? cs <|>
    if Numeral.isOverlong cs then none else (Numeral.parse? cs).map Numeral.toBinary64

end Binary64

end SpendingLedger

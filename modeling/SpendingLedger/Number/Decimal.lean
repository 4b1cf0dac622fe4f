import SpendingLedger.Number.Shortest

/-!
# Decimal numbers

Decimal numbers keep the digits they were written with: a coefficient and an exponent within wide
limits.  Beside the finite ones there are two infinities and data that are no number, quiet or
signalling, with a diagnostic number of their own.

## Main definitions

* `Decimal`, `Decimal.parse?` — decimal data and their reader.
* `Decimal.text` — the text of a decimal.
* `Decimal.toBinary64?` — the nearest binary64 number; a signalling datum has none.
-/

namespace SpendingLedger

/-- A decimal datum. -/
inductive Decimal
  /-- A number. -/
  | finite (value : Numeral)
  /-- An infinity. -/
  | infinite (negative : Bool)
  /-- No number; `payload` is a diagnostic, zero when none was given. -/
  | nan (negative signaling : Bool) (payload : Nat)
  deriving DecidableEq

namespace Decimal

/-- The greatest power of ten of a leading digit. -/
def greatestPower : Int := 999999999999999999

/-- The least exponent. -/
def leastExponent : Int := -1999999999999999997

/-- Whether a numeral lies within the limits on its exponent and on its leading digit, zero being a
digit too. -/
def inLimits (x : Numeral) : Bool :=
  leastExponent ≤ x.exponent
    && x.exponent + ((natDigits x.coefficient).length - 1 : Nat) ≤ greatestPower

/-- The diagnostic that digits write, none if `cs` holds anything but digits. -/
def payload? (cs : List Char) : Option Nat :=
  if cs.all Char.isDigit then some (digitsValue cs) else none

/-- The datum without a sign that `name`, in lower-case letters, names. -/
def parseNamed? (negative : Bool) (name : List Char) : Option Decimal :=
  match name with
  | ['i', 'n', 'f'] => some (.infinite negative)
  | ['i', 'n', 'f', 'i', 'n', 'i', 't', 'y'] => some (.infinite negative)
  | 'n' :: 'a' :: 'n' :: digits => (payload? digits).map (.nan negative false)
  | 's' :: 'n' :: 'a' :: 'n' :: digits => (payload? digits).map (.nan negative true)
  | _ => none

/-- The finite decimal that `cs` writes in the digits from 0 to 9. -/
def parseFinite? (cs : List Char) : Option Decimal :=
  match Numeral.parse? cs with
  | some x => if inLimits x then some (.finite x) else none
  | none => none

/-- The decimal that `cs` writes, in digits of any script and with space around it.  Underscores,
which may group the digits, are passed over wherever they stand. -/
def parse? (cs : List Char) : Option Decimal :=
  let cs := commonDigits ((Text.trimChars cs).filter (· ≠ '_'))
  let (negative, name) := takeSign cs
  parseNamed? negative (name.map Char.toLower) <|> parseFinite? cs

/-- The digits of a finite decimal.  They stand without an exponent when none of them is below the
point's sixth neighbour and none is added above; otherwise the first one stands before the
point. -/
def magnitudeText (coefficient : Nat) (exponent : Int) : List Char :=
  let digits := natDigits coefficient
  let left := digits.length + exponent
  let point := if exponent ≤ 0 ∧ -6 < left then left else 1
  let body :=
    if point ≤ 0 then "0.".toList ++ List.replicate (-point).toNat '0' ++ digits
    else if digits.length ≤ point.toNat then digits
    else digits.take point.toNat ++ '.' :: digits.drop point.toNat
  if left = point then body
  else body ++ 'E' :: (if left < point then '-' else '+') :: natDigits (left - point).natAbs

/-- The text of a decimal. -/
def text : Decimal → String
  | .finite x =>
    String.ofList (Binary64.withSign x.negative (magnitudeText x.coefficient x.exponent))
  | .infinite s => String.ofList (Binary64.withSign s "Infinity".toList)
  | .nan s signaling payload =>
    String.ofList (Binary64.withSign s ((if signaling then "sNaN" else "NaN").toList
      ++ if payload = 0 then [] else natDigits payload))

/-- The binary64 number nearest to a decimal; a signalling datum has none. -/
def toBinary64? : Decimal → Option Binary64
  | .finite x => some x.toBinary64
  | .infinite s => some (.infinite s)
  | .nan _ signaling _ => if signaling then none else some .nan

end Decimal

end SpendingLedger

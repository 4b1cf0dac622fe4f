import SpendingLedger.Text.Printable

/-!
# Quoted text

Text is quoted in messages between single quotes, or between double quotes when it holds a single
quote and no double one.  The quote that is used, the backslash, line feed, carriage return and tab
are escaped by a backslash; every other character that has no printed form is written by its code
in hexadecimal digits.

## Main definitions

* `hex` — a number in lower-case hexadecimal digits, of at least a given width.
* `escapeChar` — the written form of one character.
* `quote` — a text between quotes.
* `asciiChars` — a text with the characters beyond ASCII written by their codes.
-/

namespace SpendingLedger.Text

/-- `cs` filled up with `fill` on the left to a width of at least `width`. -/
def padLeft (fill : Char) (width : Nat) (cs : List Char) : List Char :=
  List.replicate (width - cs.length) fill ++ cs

/-- `n` in lower-case hexadecimal digits, at least `width` of them. -/
def hex (width n : Nat) : List Char :=
  padLeft '0' width (Nat.toDigits 16 n)

/-- A character written by its code. -/
def codeChars (c : Char) : List Char :=
  if c.toNat < 0x100 then '\\' :: 'x' :: hex 2 c.toNat
  else if c.toNat < 0x10000 then '\\' :: 'u' :: hex 4 c.toNat
  else '\\' :: 'U' :: hex 8 c.toNat

/-- The written form of `c` between the quotes `q`. -/
def escapeChar (q c : Char) : List Char :=
  if c = q ∨ c = '\\' then ['\\', c]
  else if c = '\n' then ['\\', 'n']
  else if c = '\r' then ['\\', 'r']
  else if c = '\t' then ['\\', 't']
  else if isPrintable c then [c]
  else codeChars c

/-- `cs` with the characters beyond ASCII written by their codes. -/
def asciiChars (cs : List Char) : List Char :=
  cs.flatMap fun c => if c.toNat < 0x80 then [c] else codeChars c

/-- The quote that is put around `cs`. -/
def quoteFor (cs : List Char) : Char :=
  if cs.contains '\'' && !cs.contains '"' then '"' else '\''

/-- The text `cs` between quotes. -/
def quoteChars (cs : List Char) : List Char :=
  let q := quoteFor cs
  q :: (cs.flatMap (escapeChar q) ++ [q])

/-- The text `s` between quotes. -/
def quote (s : String) : String := String.ofList (quoteChars s.toList)

end SpendingLedger.Text

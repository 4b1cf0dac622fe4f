import SpendingLedger.Number.Notation
import SpendingLedger.Value

/-!
# Places in a format

A place in a format says which field of a record is written there and how: flags, a least width, a
precision and a letter for the conversion.  Texts are cut to the precision; numbers have at least so
many digits, or so many places behind the point.

## Main definitions

* `FieldValue` — what a field of a record holds.
* `Conversion` — the ways to write it.
* `Placeholder`, `Placeholder.take?` — a place and how it is written.
* `Placeholder.fill?` — a value in a place.
-/

namespace SpendingLedger

/-- What a field of a record holds. -/
inductive FieldValue
  | text (s : String)
  | integer (n : Int)
  /-- Something else, which has a written form only. -/
  | other (written : String)
  /-- Something of whose written form only the beginning is known. -/
  | beginning (written : String)
  deriving DecidableEq

/-- The ways to write a value. -/
inductive Conversion
  | plain
  | quoted
  /-- Quoted, and with nothing but ASCII characters. -/
  | quotedAscii
  | character
  | decimal
  | octal
  | hexadecimal (capital : Bool)
  | fixed
  | scientific (capital : Bool)
  | general (capital : Bool)
  deriving DecidableEq

/-- The conversion that a letter asks for. -/
def Conversion.ofLetter? (c : Char) : Option Conversion :=
  match c with
  | 's' => some .plain
  | 'r' => some .quoted
  | 'a' => some .quotedAscii
  | 'c' => some .character
  | 'd' | 'i' | 'u' => some .decimal
  | 'o' => some .octal
  | 'x' => some (.hexadecimal false)
  | 'X' => some (.hexadecimal true)
  | 'f' | 'F' => some .fixed
  | 'e' => some (.scientific false)
  | 'E' => some (.scientific true)
  | 'g' => some (.general false)
  | 'G' => some (.general true)
  | _ => none

/-- A place for a value. -/
structure Placeholder where
  flags : List Char
  width : Nat
  precision : Option Nat
  conversion : Conversion
  deriving DecidableEq

namespace Placeholder

/-! ### Reading -/

/-- Whether `c` is a flag. -/
def isFlag (c : Char) : Bool := ['#', '0', '+', ' ', '-'].contains c

/-- The precision at the head of `cs`, if there is one, and what follows it; a point alone asks for
none of zero. -/
def takePrecision : List Char → Option Nat × List Char
  | '.' :: cs => (some (digitsValue (cs.takeWhile Char.isDigit)), cs.dropWhile Char.isDigit)
  | cs => (none, cs)

/-- `cs` without the letter for a size, which means nothing, at its head. -/
def dropSize : List Char → List Char
  | [] => []
  | c :: cs => if c = 'h' ∨ c = 'l' ∨ c = 'L' then cs else c :: cs

theorem length_takePrecision_le (cs : List Char) : (takePrecision cs).2.length ≤ cs.length := by
  unfold takePrecision
  split
  · exact Nat.le_succ_of_le (Text.length_dropWhile_le ..)
  · exact Nat.le_refl _

theorem length_dropSize_le (cs : List Char) : (dropSize cs).length ≤ cs.length := by
  cases cs with
  | nil => exact Nat.le_refl _
  | cons c cs =>
    rw [dropSize]
    split
    · exact Nat.le_succ _
    · exact Nat.le_refl _

/-- The greatest width and precision. -/
def limit : Nat := 2147483647

/-- The place that is written at the head of `cs`, and what follows it. -/
def take? (cs : List Char) : Option (Placeholder × List Char) :=
  let behindFlags := cs.dropWhile isFlag
  let width := digitsValue (behindFlags.takeWhile Char.isDigit)
  let behindWidth := takePrecision (behindFlags.dropWhile Char.isDigit)
  match dropSize behindWidth.2 with
  | [] => none
  | letter :: rest => match Conversion.ofLetter? letter with
    | none => none
    | some conversion =>
      if limit < width ∨ limit < behindWidth.1.getD 0 then none
      else some (⟨cs.takeWhile isFlag, width, behindWidth.1, conversion⟩, rest)

theorem length_lt_of_take? {cs rest : List Char} {p : Placeholder}
    (h : take? cs = some (p, rest)) : rest.length < cs.length := by
  unfold take? at h
  have hflags := Text.length_dropWhile_le isFlag cs
  have hwidth := Text.length_dropWhile_le Char.isDigit (cs.dropWhile isFlag)
  have hprecision := length_takePrecision_le ((cs.dropWhile isFlag).dropWhile Char.isDigit)
  have hsize := length_dropSize_le (takePrecision ((cs.dropWhile isFlag).dropWhile Char.isDigit)).2
  dsimp only at h
  split at h
  · simp at h
  · next letter after hafter =>
    rw [hafter, List.length_cons] at hsize
    split at h
    · simp at h
    · split at h
      · simp at h
      · simp only [Option.some.injEq, Prod.mk.injEq] at h
        rw [← h.2]
        omega

/-! ### Filling -/

/-- Whether a flag is set. -/
def has (p : Placeholder) (flag : Char) : Bool := p.flags.contains flag

/-- `cs` filled up with blanks to the width, on the left unless a flag asks for the right. -/
def align (p : Placeholder) (cs : List Char) : List Char :=
  if p.has '-' then cs ++ List.replicate (p.width - cs.length) ' '
  else Text.padLeft ' ' p.width cs

/-- A text in a place, cut to the precision. -/
def fillText (p : Placeholder) (cs : List Char) : List Char :=
  p.align (match p.precision with
    | some n => cs.take n
    | none => cs)

/-- The sign of a number in a place. -/
def signOf (p : Placeholder) (negative : Bool) : List Char :=
  if negative then ['-'] else if p.has '+' then ['+'] else if p.has ' ' then [' '] else []

/-- A number in a place, given by what stands before its digits and the digits.  Zeros that fill it
up stand between the two. -/
def fillNumber (p : Placeholder) (lead digits : List Char) : List Char :=
  if p.has '0' && !p.has '-' then lead ++ Text.padLeft '0' (p.width - lead.length) digits
  else p.align (lead ++ digits)

/-- A whole number in a place, given by the mark of its base and its digits. -/
def fillWhole (p : Placeholder) (n : Int) (mark digits : List Char) : List Char :=
  p.fillNumber (p.signOf (n < 0) ++ mark) (Text.padLeft '0' (p.precision.getD 0) digits)

/-- The number of places behind the point when none is given. -/
def usualPlaces : Nat := 6

/-- A number with a point in a place, given by its notation for a number of places; none when it is
too large for a binary64 number. -/
def fillPointed (p : Placeholder) (n : Int) (notate : Nat → Nat → List Char) :
    Option (List Char) :=
  match Binary64.ofInt? n with
  | some (.finite negative units _) =>
    let whole := units / Binary64.one
    some (p.fillNumber (p.signOf negative) (notate (p.precision.getD usualPlaces) whole))
  | _ => none

/-- The character with the number `n`. -/
def characterOf? (n : Int) : Option Char :=
  if 0 ≤ n ∧ n.toNat.isValidChar then some (Char.ofNat n.toNat) else none

/-- An integer in a place, none when there is no such character or number. -/
def fillInteger? (p : Placeholder) (n : Int) : Option (List Char) :=
  let style (capital : Bool) : Notation.Style := ⟨capital, p.has '#'⟩
  match p.conversion with
  | .plain | .quoted | .quotedAscii => some (p.fillText (Integer.chars n))
  | .character => (characterOf? n).map fun c => p.align [c]
  | .decimal => some (p.fillWhole n [] (natDigits n.natAbs))
  | .octal =>
    let (mark, digits) := Notation.octal (style false) n.natAbs
    some (p.fillWhole n mark digits)
  | .hexadecimal capital =>
    let (mark, digits) := Notation.hexadecimal (style capital) n.natAbs
    some (p.fillWhole n mark digits)
  | .fixed => p.fillPointed n (Notation.fixed (style false))
  | .scientific capital => p.fillPointed n (Notation.scientific (style capital))
  | .general capital => p.fillPointed n (Notation.general (style capital))

/-- The written form of something else in a place. -/
def writtenAs? (p : Placeholder) (written : String) : Option (List Char) :=
  match p.conversion with
  | .plain | .quoted => some written.toList
  | .quotedAscii => some (Text.asciiChars written.toList)
  | _ => none

/-- A value in a place; none when it has no form of the kind that is asked for, or when the place
shows more of it than is known. -/
def fill? (p : Placeholder) : FieldValue → Option (List Char)
  | .text s => match p.conversion with
    | .plain => some (p.fillText s.toList)
    | .quoted => some (p.fillText (Text.quoteChars s.toList))
    | .quotedAscii => some (p.fillText (Text.asciiChars (Text.quoteChars s.toList)))
    | .character => match s.toList with
      | [c] => some (p.align [c])
      | _ => none
    | _ => none
  | .integer n => p.fillInteger? n
  | .other written => (p.writtenAs? written).map p.fillText
  | .beginning written => do
    let shown ← p.precision
    let cs ← p.writtenAs? written
    if shown ≤ cs.length then some (p.fillText cs) else none

end Placeholder

end SpendingLedger

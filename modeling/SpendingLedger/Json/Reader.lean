import SpendingLedger.Value

/-!
# Reading JSON

A JSON text is read by descent.  Beside the values of the standard there are `NaN`, `Infinity` and
`-Infinity`.  Of two members of an object with one name the later one counts, at the place of the
earlier one.  A text that is no JSON is reported with the place of the first mistake.  Lists and
objects are read down to a greatest depth.

## Main definitions

* `Json.Fault`, `Json.Error` — mistakes, and mistakes with their places.
* `Json.string`, `Json.number`, `Json.value` — readers of a part at the head of a text.
* `Json.read` — the value of a whole text.
-/

namespace SpendingLedger.Json

/-- The mistakes in a text. -/
inductive Fault
  | byteOrderMark
  | expectingValue
  | expectingName
  | expectingComma
  | expectingColon
  | extraData
  | unterminatedString
  | controlCharacter
  | badEscape
  | badUnicodeEscape
  deriving DecidableEq

/-- What is said of a mistake. -/
def Fault.message : Fault → String
  | .byteOrderMark => "Unexpected UTF-8 BOM (decode using utf-8-sig)"
  | .expectingValue => "Expecting value"
  | .expectingName => "Expecting property name enclosed in double quotes"
  | .expectingComma => "Expecting ',' delimiter"
  | .expectingColon => "Expecting ':' delimiter"
  | .extraData => "Extra data"
  | .unterminatedString => "Unterminated string starting at"
  | .controlCharacter => "Invalid control character at"
  | .badEscape => "Invalid \\escape"
  | .badUnicodeEscape => "Invalid \\uXXXX escape"

/-- Why a part of a text is not read: a mistake with the number of characters from its place to the
end of the text, an integer that is too long, or lists and objects that stand too deep. -/
inductive Failure
  | at (fault : Fault) (remaining : Nat)
  | integerTooLong (e : Integer.TooLong)
  | tooDeep
  deriving DecidableEq

/-- What a reader of a part gives: the part and the rest of the text. -/
abbrev Parsed (α : Type) := Except Failure (α × List Char)

/-- The failure at the head of `rest`. -/
def failAt {α : Type} (fault : Fault) (rest : List Char) : Parsed α :=
  .error (.at fault rest.length)

/-- `cs` without the blanks at its head. -/
def skipBlanks (cs : List Char) : List Char :=
  cs.dropWhile fun c => c = ' ' ∨ c = '\t' ∨ c = '\n' ∨ c = '\r'

/-! ### Strings -/

/-- The character that a letter behind a backslash stands for. -/
def escaped? (c : Char) : Option Char :=
  match c with
  | '"' => some '"'
  | '\\' => some '\\'
  | '/' => some '/'
  | 'b' => some '\x08'
  | 'f' => some '\x0c'
  | 'n' => some '\n'
  | 'r' => some '\r'
  | 't' => some '\t'
  | _ => none

/-- The value of a hexadecimal digit. -/
def hexDigit? (c : Char) : Option Nat :=
  if c.isDigit then some (c.toNat - 48)
  else if 'a' ≤ c ∧ c ≤ 'f' then some (c.toNat - 87)
  else if 'A' ≤ c ∧ c ≤ 'F' then some (c.toNat - 55)
  else none

/-- The number that four hexadecimal digits write. -/
def hex4? (a b c d : Char) : Option Nat := do
  let a ← hexDigit? a
  let b ← hexDigit? b
  let c ← hexDigit? c
  let d ← hexDigit? d
  pure (((a * 16 + b) * 16 + c) * 16 + d)

/-- Whether a code unit is the first half of a pair. -/
def isLeading (n : Nat) : Bool := 0xD800 ≤ n && n < 0xDC00

/-- Whether a code unit is the second half of a pair. -/
def isTrailing (n : Nat) : Bool := 0xDC00 ≤ n && n < 0xE000

/-- The character of a code unit.  Half a pair alone is no character and stands in no text, so it is
replaced by U+FFFD.  Files with such halves lie outside of what is modelled: the program keeps a
half that it reads and fails where it saves it. -/
def ofUnit (n : Nat) : Char := if isLeading n || isTrailing n then '\ufffd' else Char.ofNat n

/-- The character of a pair of code units. -/
def ofPair (lead trail : Nat) : Char :=
  Char.ofNat (0x10000 + (lead - 0xD800) * 0x400 + (trail - 0xDC00))

/-- The rest of a string behind its opening quote, and what follows its closing one.  `start` is the
number of characters from the opening quote to the end of the text, and `done` holds the characters
that are read, the latest first. -/
def string (start : Nat) (done : List Char) : List Char → Parsed String
  | [] => .error (.at .unterminatedString start)
  | c :: cs =>
    if c = '"' then .ok (String.ofList done.reverse, cs)
    else if c = '\\' then
      match cs with
      | [] => .error (.at .unterminatedString start)
      | e :: rest =>
        if e = 'u' then
          match rest with
          | h₁ :: h₂ :: h₃ :: h₄ :: r =>
            match hex4? h₁ h₂ h₃ h₄ with
            | none => failAt .badUnicodeEscape (e :: rest)
            | some n =>
              if r.isEmpty then failAt .badUnicodeEscape (e :: rest)
              -- the first half of a pair stands for itself if the second does not follow
              else if isLeading n then
                match r with
                | b :: u :: k₁ :: k₂ :: k₃ :: k₄ :: r' =>
                  if b = '\\' ∧ u = 'u' ∧ !r'.isEmpty then
                    match hex4? k₁ k₂ k₃ k₄ with
                    | none => failAt .badUnicodeEscape (u :: k₁ :: k₂ :: k₃ :: k₄ :: r')
                    | some m =>
                      if isTrailing m then string start (ofPair n m :: done) r'
                      else string start (ofUnit n :: done) (b :: u :: k₁ :: k₂ :: k₃ :: k₄ :: r')
                  else string start (ofUnit n :: done) (b :: u :: k₁ :: k₂ :: k₃ :: k₄ :: r')
                | r => string start (ofUnit n :: done) r
              else string start (ofUnit n :: done) r
          | _ => failAt .badUnicodeEscape (e :: rest)
        else match escaped? e with
          | some d => string start (d :: done) rest
          | none => failAt .badEscape (c :: cs)
    else if c.toNat < 0x20 then failAt .controlCharacter (c :: cs)
    else string start (c :: done) cs

/-! ### Numbers -/

/-- The fraction at the head of `cs`, a point and digits, and what follows it. -/
def takeFraction (cs : List Char) : List Char × List Char :=
  match cs with
  | '.' :: d :: rest =>
    if d.isDigit then ('.' :: d :: rest.takeWhile Char.isDigit, rest.dropWhile Char.isDigit)
    else ([], cs)
  | _ => ([], cs)

/-- The exponent at the head of `cs`, the letter E and an integer, and what follows it. -/
def takeExponent (cs : List Char) : List Char × List Char :=
  match cs with
  | e :: rest =>
    if e = 'e' ∨ e = 'E' then
      let (sign, digits) := match rest with
        | '+' :: r => (['+'], r)
        | '-' :: r => (['-'], r)
        | r => ([], r)
      if (digits.takeWhile Char.isDigit).isEmpty then ([], cs)
      else (e :: sign ++ digits.takeWhile Char.isDigit, digits.dropWhile Char.isDigit)
    else ([], cs)
  | [] => ([], cs)

/-- The whole part at the head of `cs`: a zero, or digits that do not begin with one. -/
def takeWhole (cs : List Char) : List Char × List Char :=
  match cs with
  | '0' :: rest => (['0'], rest)
  | _ => (cs.takeWhile Char.isDigit, cs.dropWhile Char.isDigit)

/-- The number at the head of `cs`. -/
def number (cs : List Char) : Parsed Value :=
  let (negative, body) := match cs with
    | '-' :: rest => (true, rest)
    | _ => (false, cs)
  let (whole, rest) := takeWhole body
  if whole.isEmpty then failAt .expectingValue cs
  else
    let (fraction, rest) := takeFraction rest
    let (power, rest) := takeExponent rest
    if fraction.isEmpty && power.isEmpty then
      match Integer.ofDigits negative whole with
      | .ok n => .ok (.int n, rest)
      | .error e => .error (.integerTooLong e)
    else match Numeral.parse? (whole ++ fraction ++ power) with
      | some x => .ok (.float { x with negative }.toBinary64, rest)
      | none => failAt .expectingValue cs

/-! ### Values -/

/-- The words that are values. -/
def words : List (List Char × Value) :=
  [("null".toList, .null), ("true".toList, .bool true), ("false".toList, .bool false),
    ("NaN".toList, .float .nan), ("Infinity".toList, .float (.infinite false)),
    ("-Infinity".toList, .float (.infinite true))]

/-- The word or the number at the head of `cs`. -/
def atom (cs : List Char) : Parsed Value :=
  match words.find? fun w => w.1.isPrefixOf cs with
  | some (w, v) => .ok (v, cs.drop w.length)
  | none => number cs

mutual

/-- The value at the head of `cs`, with at most `fuel` readers one inside or behind another, and
with lists and objects at most `depth` deep. -/
def value (depth : Nat) : Nat → List Char → Parsed Value
  | 0, cs => failAt .expectingValue cs
  | fuel + 1, cs =>
    match cs with
    | [] => failAt .expectingValue cs
    | c :: rest =>
      if c = '"' then (string cs.length [] rest).map fun (s, r) => (.text s, r)
      else if c = '[' then
        if depth = 0 then .error .tooDeep
        else match skipBlanks rest with
          | ']' :: r => .ok (.list [], r)
          | r => (items (depth - 1) fuel r).map fun (vs, r) => (.list vs, r)
      else if c = '\x7b' then
        if depth = 0 then .error .tooDeep
        else match skipBlanks rest with
          | '\x7d' :: r => .ok (.table [], r)
          | r => (members (depth - 1) fuel r).map fun (fs, r) => (.table (Fields.ofList fs), r)
      else atom cs

/-- The values of a list up to its closing bracket. -/
def items (depth : Nat) : Nat → List Char → Parsed (List Value)
  | 0, cs => failAt .expectingValue cs
  | fuel + 1, cs =>
    match value depth fuel cs with
    | .error e => .error e
    | .ok (v, rest) => match skipBlanks rest with
      | ']' :: r => .ok ([v], r)
      | ',' :: r => (items depth fuel (skipBlanks r)).map fun (vs, r) => (v :: vs, r)
      | r => failAt .expectingComma r

/-- The members of an object up to its closing brace. -/
def members (depth : Nat) : Nat → List Char → Parsed (List (String × Value))
  | 0, cs => failAt .expectingName cs
  | fuel + 1, cs =>
    match cs with
    | '"' :: behind => match string cs.length [] behind with
      | .error e => .error e
      | .ok (name, rest) => match skipBlanks rest with
        | ':' :: r => match value depth fuel (skipBlanks r) with
          | .error e => .error e
          | .ok (v, rest) => match skipBlanks rest with
            | '\x7d' :: r => .ok ([(name, v)], r)
            | ',' :: r =>
              (members depth fuel (skipBlanks r)).map fun (fs, r) => ((name, v) :: fs, r)
            | r => failAt .expectingComma r
        | r => failAt .expectingColon r
    | r => failAt .expectingName r

end

/-! ### Whole texts -/

/-- A mistake with its place: the line and the column, counted from 1, and the number of characters
before it. -/
structure Place where
  fault : Fault
  line : Nat
  column : Nat
  before : Nat
  deriving DecidableEq

/-- Why a text is not read. -/
inductive Error
  | syntaxFault (place : Place)
  | integerTooLong (e : Integer.TooLong)
  /-- Lists and objects stand too deep. -/
  | tooDeep
  deriving DecidableEq

/-- The place in `text` with `remaining` characters from it to the end. -/
def placeOf (fault : Fault) (text : List Char) (remaining : Nat) : Place :=
  let before := text.take (text.length - remaining)
  { fault
    line := before.count '\n' + 1
    column := (before.reverse.takeWhile (· ≠ '\n')).length + 1
    before := before.length }

/-- What is said of a mistake at its place. -/
def Place.message (p : Place) : String :=
  s!"{p.fault.message}: line {p.line} column {p.column} (char {p.before})"

/-- A failure while reading `text` as an error. -/
def Failure.inText (text : List Char) : Failure → Error
  | .at fault remaining => .syntaxFault (placeOf fault text remaining)
  | .integerTooLong e => .integerTooLong e
  | .tooDeep => .tooDeep

/-- The greatest depth of lists and objects.  Neither the format nor the specification sets one: it
stands for the depth at which the stack of a reader is full, which depends on the machine.  Stored
ledgers and dictionaries have a depth of two. -/
def greatestDepth : Nat := 970

/-- The value of a text with blanks around it. -/
def parseAll (cs : List Char) : Except Failure Value :=
  if cs.head? = some '\ufeff' then .error (.at .byteOrderMark cs.length)
  else match value greatestDepth (2 * cs.length + 2) (skipBlanks cs) with
    | .error e => .error e
    | .ok (v, rest) => match skipBlanks rest with
      | [] => .ok v
      | r => .error (.at .extraData r.length)

/-- The value of a text. -/
def read (text : String) : Except Error Value :=
  (parseAll text.toList).mapError (Failure.inText text.toList)

end SpendingLedger.Json

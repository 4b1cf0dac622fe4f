import SpendingLedger.Text.Digit
import SpendingLedger.Text.Space
import SpendingLedger.Text.Word

/-!
# Lexemes of written dates

A date that people write is cut into words, numbers, blanks and single marks.  A point continues a
word or a number, and so does a comma a number of two digits or more; a run in which such a mark
turns out to be no decimal point is cut at its marks.

## Main definitions

* `Run`, `Run.extend?` — a run of characters and the characters that continue it.
* `takeRun` — the longest run at the head of a text.
* `lexemes` — all lexemes of a text.
-/

namespace SpendingLedger.Calendar

/-- The kinds of runs: letters, digits, and either with a mark inside. -/
inductive RunKind
  | word
  | number
  | markedWord
  | markedNumber
  deriving DecidableEq

/-- A run of characters, the last one first. -/
structure Run where
  kind : RunKind
  /-- Whether a character has been looked at from inside a word. -/
  inWord : Bool
  reversed : List Char

namespace Run

/-- The run of one letter or digit, none for another character. -/
def start? (c : Char) : Option Run :=
  if Text.isLetter c then some ⟨.word, false, [c]⟩
  else if Text.isDigit c then some ⟨.number, false, [c]⟩
  else none

/-- `r` after it has looked at one character more. -/
def look (r : Run) : Run :=
  match r.kind with
  | .word | .markedWord => { r with inWord := true }
  | _ => r

/-- `r` with `c` added under a kind. -/
def add (r : Run) (kind : RunKind) (c : Char) : Run :=
  { r with kind, reversed := c :: r.reversed }

/-- Whether a run ends in a point. -/
def endsInPoint (r : Run) : Bool := r.reversed.head? == some '.'

/-- `r` with `c` added, none if `c` does not continue it. -/
def extend? (r : Run) (c : Char) : Option Run :=
  match r.kind with
  | .word =>
    if Text.isLetter c then some (r.add .word c)
    else if c = '.' then some (r.add .markedWord c)
    else none
  | .number =>
    if Text.isDigit c then some (r.add .number c)
    else if c = '.' ∨ (c = ',' ∧ 2 ≤ r.reversed.length) then some (r.add .markedNumber c)
    else none
  | .markedWord =>
    if c = '.' ∨ Text.isLetter c then some (r.add .markedWord c)
    else if Text.isDigit c ∧ r.endsInPoint then some (r.add .markedNumber c)
    else none
  | .markedNumber =>
    if c = '.' ∨ Text.isDigit c then some (r.add .markedNumber c)
    else if Text.isLetter c ∧ r.endsInPoint then some (r.add .markedWord c)
    else none

end Run

/-- The run that continues `r` in a text, and what follows it. -/
def takeRun (r : Run) : List Char → Run × List Char
  | [] => (r, [])
  | c :: cs =>
    match r.look.extend? c with
    | some r' => takeRun r' cs
    | none => (r.look, c :: cs)

theorem length_takeRun_le (r : Run) (cs : List Char) : (takeRun r cs).2.length ≤ cs.length := by
  induction cs generalizing r with
  | nil => simp [takeRun]
  | cons c cs ih =>
    rw [takeRun]
    split
    · exact Nat.le_succ_of_le (ih _)
    · exact Nat.le_refl _

/-- `cs` cut before and after each point and comma; empty parts are left out. -/
def cutAtMarks : List Char → List (List Char)
  | [] => []
  | c :: cs =>
    if c = '.' ∨ c = ',' then [c] :: cutAtMarks cs
    else match cutAtMarks cs with
      | (d :: ds) :: rest =>
        if d = '.' ∨ d = ',' then [c] :: (d :: ds) :: rest else (c :: d :: ds) :: rest
      | rest => [c] :: rest

/-- The lexemes of a run.  A run with one point between digits is a number, in which a comma is
read as a point; any other run with marks is cut at them. -/
def Run.lexemes (r : Run) : List (List Char) :=
  let cs := r.reversed.reverse
  let marked := r.kind = .markedWord ∨ r.kind = .markedNumber
  let endsInMark := r.reversed.head? = some '.' ∨ r.reversed.head? = some ','
  if marked ∧ (r.inWord ∨ 1 < cs.count '.' ∨ endsInMark) then cutAtMarks cs
  else if r.kind = .markedNumber ∧ cs.count '.' = 0 then
    [cs.map fun c => if c = ',' then '.' else c]
  else [cs]

/-- The lexemes of a text without NUL characters. -/
def lexemesOf : List Char → List (List Char)
  | [] => []
  | c :: cs =>
    match Run.start? c with
    -- a mark or a blank; all blanks are alike
    | none => [if Text.isSpace c then ' ' else c] :: lexemesOf cs
    | some r => (takeRun r cs).1.lexemes ++ lexemesOf (takeRun r cs).2
termination_by cs => cs.length
decreasing_by
  · simp
  · exact Nat.lt_succ_of_le (length_takeRun_le ..)

/-- The lexemes of a text; NUL characters are passed over. -/
def lexemes (s : String) : List String :=
  (lexemesOf (s.toList.filter (· ≠ '\x00'))).map String.ofList

end SpendingLedger.Calendar

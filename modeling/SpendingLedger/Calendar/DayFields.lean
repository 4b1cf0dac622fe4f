import SpendingLedger.Calendar.Date
import SpendingLedger.Number.Integer

/-!
# Which number is the day

A written date gives up to three numbers for year, month and day, some of which show by their form
or their place which one they are.  The others are told apart by their size and order: the month
comes first unless that cannot be.

## Main definitions

* `DayFields` — the numbers of a date as they are found, with the known roles.
* `DayFields.addText`, `DayFields.addNumber` — one more number.
* `DayFields.resolve?` — year, month and day.
-/

namespace SpendingLedger.Calendar

/-- What a number of a date can be. -/
inductive Role
  | year
  | month
  | day
  deriving DecidableEq

/-- The numbers of a date in the order they were found.  `yearAt`, `monthAt` and `dayAt` are the
places of the numbers whose roles are known. -/
structure DayFields where
  values : List Nat := []
  /-- Whether a year was written with its century. -/
  fullYear : Bool := false
  yearAt : Option Nat := none
  monthAt : Option Nat := none
  dayAt : Option Nat := none

namespace DayFields

/-- The number that a lexeme writes in decimal digits. -/
def number? (cs : List Char) : Option Nat :=
  if cs.isEmpty || !cs.all Text.isDecimalDigit then none
  else match Integer.ofDigits false (commonDigits cs) with
    | .ok n => some n.natAbs
    | .error _ => none

/-- `f` with one more number in a role that no other number has. -/
def add (f : DayFields) (n : Nat) (role : Option Role) : Option DayFields :=
  let place := f.values.length
  let f' := { f with values := f.values ++ [n] }
  match role with
  | none => some f'
  | some .year => if f.yearAt.isSome then none else some { f' with yearAt := some place }
  | some .month => if f.monthAt.isSome then none else some { f' with monthAt := some place }
  | some .day => if f.dayAt.isSome then none else some { f' with dayAt := some place }

/-- `f` with the number `n`, which is a year when `large`; a large number with another role is
refused. -/
def addSized (f : DayFields) (large : Bool) (n : Nat) (role : Option Role) : Option DayFields :=
  if large then
    match role with
    | none | some .year => { f with fullYear := true }.add n (some .year)
    | _ => none
  else f.add n role

/-- `f` with the number that a lexeme writes; three digits or more make it a year. -/
def addText (f : DayFields) (cs : List Char) (role : Option Role) : Option DayFields :=
  (number? cs).bind fun n => f.addSized (cs.all Text.isDigit && 2 < cs.length) n role

/-- `f` with the whole part of the number `coefficient / 10 ^ places`; above one hundred it is a
year. -/
def addNumber (f : DayFields) (coefficient places : Nat) : Option DayFields :=
  f.addSized (100 * powerOfTen places < coefficient) (coefficient / powerOfTen places) none

/-- Whether the number `coefficient / 10 ^ places` can be the day; none when a month that is known
does not exist. -/
def couldBeDay? (f : DayFields) (coefficient places : Nat) : Option Bool :=
  let within (last : Nat) : Bool :=
    powerOfTen places ≤ coefficient && coefficient ≤ last * powerOfTen places
  if f.dayAt.isSome then some false
  else match f.monthAt with
    | none => some (within 31)
    | some m =>
      let month := f.values.getD m 0
      let year := match f.yearAt with
        | none => 2000
        | some y => f.values.getD y 0
      let last := Date.monthLength year month
      if last = 0 then none else some (within last)

/-- Year, month and day as far as they are given. -/
structure Day where
  year : Option Nat := none
  month : Option Nat := none
  day : Option Nat := none

/-- The numbers in known roles; of three numbers the last one has the last role. -/
def byRole (f : DayFields) : Day :=
  let free (place : Option Nat) : Option Nat := match place with
    | some p => some p
    | none => if f.values.length = 3 then
        (List.range 3).find? fun p => !([f.yearAt, f.monthAt, f.dayAt].contains (some p))
      else none
  let value (place : Option Nat) : Option Nat := (free place).bind (f.values[·]?)
  { year := value f.yearAt, month := value f.monthAt, day := value f.dayAt }

/-- Three numbers of which only the month may be known. -/
def ofThree (f : DayFields) (a b c : Nat) : Day :=
  match f.monthAt with
  -- the month stands first, as in "Jan 15 2025"; a number that no day has is the year
  | some 0 =>
    if 31 < b then { month := a, year := b, day := c } else { month := a, day := b, year := c }
  -- "15 Jan 2025" or "2025 Jan 15"
  | some 1 =>
    if 31 < a then { year := a, month := b, day := c } else { day := a, month := b, year := c }
  | some _ =>
    if 31 < b then { day := a, year := b, month := c } else { year := a, day := b, month := c }
  -- nothing is known but the order
  | none =>
    if 31 < a ∨ f.yearAt = some 0 then { year := a, month := b, day := c }
    else if 12 < a then { day := a, month := b, year := c }
    else { month := a, day := b, year := c }

/-- Two numbers of which only the month may be known. -/
def ofTwo (f : DayFields) (a b : Nat) : Day :=
  match f.monthAt with
  | some m =>
    let month := if m = 0 then a else b
    let other := if m = 0 then b else a
    if 31 < other then { month, year := other } else { month, day := other }
  | none =>
    if 31 < a then { year := a, month := b }
    else if 31 < b then { month := a, year := b }
    else { month := a, day := b }

/-- Year, month and day, none when there are more than three numbers. -/
def resolve? (f : DayFields) : Option Day :=
  let known := ([f.yearAt, f.monthAt, f.dayAt].filter Option.isSome).length
  if (f.values.length = known ∧ 0 < known) ∨ (f.values.length = 3 ∧ known = 2) then some f.byRole
  else match f.values with
    | [] => some {}
    | [a] => some (if 31 < a then { year := a } else { day := a })
    | [a, b] => some (f.ofTwo a b)
    | [a, b, c] => some (f.ofThree a b c)
    | _ => none

end DayFields

end SpendingLedger.Calendar

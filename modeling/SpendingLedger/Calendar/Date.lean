import SpendingLedger.Number.Shortest

/-!
# Calendar days

The days of the Gregorian calendar from year 1 to year 9999.

## Main definitions

* `Date`, `Date.of?` — existing days.
* `Date.order` — chronological order.
* `Date.weekday`, `Date.next?` — the day of the week and the day after.
* `Date.iso` — the written form `YYYY-MM-DD`.
-/

namespace SpendingLedger

namespace Date

/-- Whether `year` is a leap year. -/
def isLeap (year : Nat) : Bool :=
  year % 4 = 0 && (year % 100 ≠ 0 || year % 400 = 0)

/-- The number of days of a month, zero when there is no such month. -/
def monthLength (year month : Nat) : Nat :=
  match month with
  | 2 => if isLeap year then 29 else 28
  | 4 | 6 | 9 | 11 => 30
  | 1 | 3 | 5 | 7 | 8 | 10 | 12 => 31
  | _ => 0

/-- Whether there is such a day. -/
def Exists (year month day : Nat) : Prop :=
  1 ≤ year ∧ year ≤ 9999 ∧ 1 ≤ day ∧ day ≤ monthLength year month

instance (year month day : Nat) : Decidable (Exists year month day) :=
  inferInstanceAs (Decidable (_ ∧ _))

end Date

/-- A calendar day. -/
structure Date where
  year : Nat
  month : Nat
  day : Nat
  exists_day : Date.Exists year month day
  deriving DecidableEq

namespace Date

/-- The day with these numbers, if there is one. -/
def of? (year month day : Nat) : Option Date :=
  if h : Exists year month day then some ⟨year, month, day, h⟩ else none

/-- How two days follow each other. -/
def order (a b : Date) : Ordering :=
  (compare a.year b.year).then ((compare a.month b.month).then (compare a.day b.day))

/-- The number of days from the end of year 0 to the end of a year. -/
def daysThrough (year : Nat) : Nat := 365 * year + year / 4 - year / 100 + year / 400

/-- The number of days of the first months of a year. -/
def daysThroughMonth (year : Nat) : Nat → Nat
  | 0 => 0
  | month + 1 => daysThroughMonth year month + monthLength year (month + 1)

/-- The number of a day, counted from the first day of year 1 as number 1. -/
def number (d : Date) : Nat :=
  daysThrough (d.year - 1) + daysThroughMonth d.year (d.month - 1) + d.day

/-- The day of the week, from 0 for Monday to 6 for Sunday. -/
def weekday (d : Date) : Nat := (d.number + 6) % 7

/-- The day after, if there is one. -/
def next? (d : Date) : Option Date :=
  of? d.year d.month (d.day + 1) <|> of? d.year (d.month + 1) 1 <|> of? (d.year + 1) 1 1

/-- The day `n` days after, if there is one. -/
def after? (d : Date) : Nat → Option Date
  | 0 => some d
  | n + 1 => d.next?.bind (after? · n)

/-- `n` in at least `width` digits. -/
def padded (width n : Nat) : List Char := Text.padLeft '0' width (natDigits n)

/-- The characters of the form `YYYY-MM-DD`. -/
def isoChars (d : Date) : List Char :=
  padded 4 d.year ++ '-' :: padded 2 d.month ++ '-' :: padded 2 d.day

/-- The form `YYYY-MM-DD`. -/
def iso (d : Date) : String := String.ofList d.isoChars

theorem of?_eq_some_iff {year month day : Nat} {d : Date} :
    of? year month day = some d ↔ d.year = year ∧ d.month = month ∧ d.day = day := by
  obtain ⟨y, m, n, h⟩ := d
  unfold of?
  constructor
  · intro e
    split at e
    · simp only [Option.some.injEq, Date.mk.injEq] at e
      exact ⟨e.1.symm, e.2.1.symm, e.2.2.symm⟩
    · simp at e
  · rintro ⟨rfl, rfl, rfl⟩
    simp [h]

example : (of? 2024 2 29).isSome ∧ of? 1900 2 29 = none ∧ of? 0 1 1 = none := by decide

end Date

end SpendingLedger

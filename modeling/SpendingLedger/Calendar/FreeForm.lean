import SpendingLedger.Calendar.DayFields
import SpendingLedger.Calendar.Lexeme
import SpendingLedger.Number.Decimal
import SpendingLedger.Number.Significant
import SpendingLedger.Text.Case

/-!
# Dates as people write them

A day can be written in many ways: with the month's name, with two or four digits for the year,
behind or before a time of day and a time zone.  The lexemes of such a text are read from left to
right; whatever is not written is taken from today, a lone day of the week means the next such day,
and times and zones are only checked.  A word that has no meaning in a date makes the text no date.

## Main definitions

* `Unreadable` — why a text has no day.
* `Reading` — what has been read so far.
* `Reading.step` — the reading of one lexeme together with those that belong to it.
* `FreeForm.parse` — the day that a text writes.

## References

`SPEC_FULL.md`, section 4.3, *Predicate Evaluator*: the generic fallback for dates.
-/

namespace SpendingLedger.Calendar

/-- Why a text has no day. -/
inductive Unreadable
  /-- It writes no date. -/
  | noDate
  /-- The part behind the point is asked of a number with too many digits before it. -/
  | tooManyDigits
  deriving DecidableEq

/-- What was found, if anything was; otherwise there is no date. -/
def orNoDate {α : Type} : Option α → Except Unreadable α
  | some a => .ok a
  | none => .error .noDate

/-! ### Words -/

/-- The words and marks that may stand anywhere. -/
def isFiller (s : String) : Bool :=
  [" ", ".", ",", ";", "-", "/", "'", "at", "on", "and", "ad", "m", "t", "of", "st", "nd", "rd",
    "th"].contains (Text.lower s)

/-- The position of the first list that holds the word `s`, in letters of either case. -/
def nameIndex? (names : List (List String)) (s : String) : Option Nat :=
  names.findIdx? (·.contains (Text.lower s))

/-- The number of a day of the week, from 0 for Monday. -/
def weekdayNamed? (s : String) : Option Nat :=
  nameIndex? [["mon", "monday"], ["tue", "tuesday"], ["wed", "wednesday"], ["thu", "thursday"],
    ["fri", "friday"], ["sat", "saturday"], ["sun", "sunday"]] s

/-- The number of a month, from 1 for January. -/
def monthNamed? (s : String) : Option Nat :=
  (nameIndex? [["jan", "january"], ["feb", "february"], ["mar", "march"], ["apr", "april"], ["may"],
    ["jun", "june"], ["jul", "july"], ["aug", "august"], ["sep", "sept", "september"],
    ["oct", "october"], ["nov", "november"], ["dec", "december"]] s).map (· + 1)

/-- The unit of time that a word names: 0 for hours, 1 for minutes, 2 for seconds. -/
def timeUnit? (s : String) : Option Nat :=
  nameIndex? [["h", "hour", "hours"], ["m", "minute", "minutes"], ["s", "second", "seconds"]] s

/-- The half of the day that a word names: 0 before noon, 1 after. -/
def dayHalf? (s : String) : Option Nat :=
  nameIndex? [["am", "a"], ["pm", "p"]] s

/-- Whether `s` names universal time, in letters of either case. -/
def isUniversalTime (s : String) : Bool := ["utc", "gmt", "z"].contains (Text.lower s)

/-! ### Numbers -/

/-- A number as it stands in a lexeme, `coefficient / 10 ^ places`. -/
structure Quantity where
  coefficient : Nat
  places : Nat

namespace Quantity

/-- The number that a lexeme writes. -/
def parse? (s : String) : Option Quantity :=
  match Decimal.parse? s.toList with
  | some (.finite x) =>
    if x.exponent ≤ 0 then some ⟨x.coefficient, (-x.exponent).toNat⟩
    else some ⟨x.coefficient * powerOfTen x.exponent.toNat, 0⟩
  | _ => none

/-- The whole part. -/
def whole (q : Quantity) : Nat := q.coefficient / powerOfTen q.places

/-- The number of significant digits to which results are rounded. -/
def precision : Nat := 28

/-- A numeral below one in sixtieths, rounded down.  Both the numeral and its sixtyfold are rounded
to the precision before. -/
def sixtiethsOf (part : Numeral) : Nat :=
  let part := part.round precision
  let sixty := { part with coefficient := 60 * part.coefficient }.round precision
  sixty.coefficient / powerOfTen (-sixty.exponent).toNat

/-- The part after the point in sixtieths, none if there is no such part.  It is only known of a
number whose whole part has no more digits than the precision. -/
def sixtieths (q : Quantity) : Except Unreadable (Option Nat) :=
  let rest := q.coefficient % powerOfTen q.places
  if powerOfTen precision ≤ q.whole then .error .tooManyDigits
  else if rest = 0 then .ok none
  else .ok (some (sixtiethsOf ⟨false, rest, -q.places⟩))

end Quantity

/-- The integer that `cs` writes in decimal digits. -/
def integer? (cs : List Char) : Option Nat := DayFields.number? cs

/-- The whole seconds of a number of seconds with an optional decimal part. -/
def seconds? (cs : List Char) : Option Nat :=
  match Text.pieces (· == '.') cs with
  | [whole] => integer? whole
  | [whole, part] => (integer? whole).bind fun n => (integer? (part.take 6 ++ ['0'])).map fun _ => n
  | _ => none

/-! ### Readings -/

/-- What has been read of a date. -/
structure Reading where
  fields : DayFields := {}
  weekday : Option Nat := none
  hour : Option Nat := none
  minute : Option Nat := none
  second : Option Nat := none
  half : Option Nat := none
  zone : Option String := none
  /-- The seconds ahead of universal time. -/
  offset : Option Int := none

/-- The hour on the clock of 24 hours that `hour` is in one half of the day. -/
def hourInHalf (hour half : Nat) : Nat :=
  if hour < 12 ∧ half = 1 then hour + 12 else if hour = 12 ∧ half = 0 then 0 else hour

namespace Reading

/-- `r` with a number that counts a unit of time; a part after the point counts the next smaller
unit. -/
def setTime (r : Reading) (unit : Nat) (token : String) (q : Quantity) :
    Except Unreadable Reading :=
  match unit with
  | 0 => q.sixtieths.map fun part => { r with hour := some q.whole, minute := part <|> r.minute }
  | 1 => q.sixtieths.map fun part => { r with minute := some q.whole, second := part }
  | 2 => (orNoDate (seconds? token.toList)).map fun s => { r with second := some s }
  | _ => .ok r

/-- Whether a word can be the name of a time zone. -/
def couldBeZone (r : Reading) (offsetKnown : Bool) (token : String) : Bool :=
  r.hour.isSome && r.zone.isNone && !offsetKnown && token.length ≤ 5
    && (token.toList.all Char.isUpper || ["UTC", "GMT", "Z", "z"].contains token)

/-- What a step gives: the reading after it, how many of the lexemes after the first one belong to
it, and those lexemes. -/
abbrev Step := Reading × Nat × List String

/-- The unit of time that applies to a number, and how many of the lexemes after it belong to it.
The unit stands after the number, with or without a blank between them; otherwise the number counts
the unit after the one that stands before it. -/
def unitOf? (seen rest : List String) : Option (Nat × Nat) :=
  -- as in "10h" and "10 h"
  let after := match rest with
    | a :: more => match timeUnit? a with
      | some u => some (u, 1)
      | none => match more with
        | b :: _ => if a = " " then (timeUnit? b).map (·, 2) else none
        | [] => none
    | [] => none
  -- as in the second number of "10h30"; over a blank only at the end of the text
  let before := match seen with
    | a :: more => match timeUnit? a with
      | some u => some (u + 1, 0)
      | none => match more with
        | b :: _ => if a = " " && rest.isEmpty then (timeUnit? b).map (· + 1, 0) else none
        | [] => none
    | [] => none
  after <|> before

/-- A number in front of a separator: two or three numbers of a date, the later ones maybe names of
months. -/
def separated (r : Reading) (token sep : String) (rest : List String) : Option Step := do
  let fields ← r.fields.addText token.toList none
  match rest with
  | _ :: b :: more =>
    -- the separator is a mark between words
    if isFiller b then some ({ r with fields }, 1, rest)
    else
      let fields ←
        if b.toList.all Text.isDigit then fields.addText b.toList none
        else (monthNamed? b).bind fun m => fields.add m (some .month)
      -- a third number only behind the same separator
      match more with
      | c :: more' =>
        if c = sep then
          match more' with
          | d :: _ =>
            let fields ← match monthNamed? d with
              | some m => fields.add m (some .month)
              | none => fields.addText d.toList none
            some ({ r with fields }, 4, rest)
          | [] => none
        else some ({ r with fields }, 2, rest)
      | [] => some ({ r with fields }, 2, rest)
  | _ => some ({ r with fields }, 1, rest)

/-- A time of day whose minutes follow a colon. -/
def clock (r : Reading) (q : Quantity) (minutes : String) (rest : List String) :
    Except Unreadable Step := do
  let m ← orNoDate (Quantity.parse? minutes)
  let part ← m.sixtieths
  let r := { r with hour := some q.whole, minute := some m.whole, second := part }
  match rest with
  | _ :: _ :: ":" :: s :: _ =>
    let s ← orNoDate (seconds? s.toList)
    pure ({ r with second := some s }, 4, rest)
  | _ => pure (r, 2, rest)

/-- A number that is neither part of a time nor joined to others by a separator. -/
def lone (r : Reading) (q : Quantity) (rest : List String) : Option Step :=
  let asField (taken : Nat) : Option Step :=
    (r.fields.addNumber q.coefficient q.places).map fun fields => ({ r with fields }, taken, rest)
  let asDay : Option Step :=
    (r.fields.couldBeDay? q.coefficient q.places).bind fun b => if b then asField 0 else none
  match rest with
  | [] => asField 1
  | a :: more =>
    if isFiller a then
      -- as in "10 am"
      match more.head?.bind dayHalf? with
      | some half => some ({ r with hour := some (hourInHalf q.whole half) }, 2, rest)
      | none => asField 1
    -- as in "10am", or a day with an ending as in "15th"
    else match dayHalf? a with
      | some half =>
        if q.whole < 24 then some ({ r with hour := some (hourInHalf q.whole half) }, 1, rest)
        else asDay
      | none => asDay

/-- The digits of a date without separators, and of a time behind it. -/
def packed (r : Reading) (cs : List Char) : Option Reading := do
  let part (start stop : Nat) := (cs.take stop).drop start
  let fields ← r.fields.addText (part 0 4) (some .year)
  let fields ← fields.addText (part 4 6) none
  let fields ← fields.addText (part 6 8) none
  let r := { r with fields }
  if cs.length ≤ 8 then some r
  else
    let hour ← integer? (part 8 10)
    let minute ← integer? (part 10 12)
    let r := { r with hour := some hour, minute := some minute }
    if cs.length ≤ 12 then some r
    else (integer? (part 12 14)).map fun s => { r with second := some s }

/-- The six digits of a date or a time without separators, and a decimal part of the seconds. -/
def packedShort (r : Reading) (cs : List Char) : Option Reading := do
  let part (start stop : Nat) := (cs.take stop).drop start
  if r.fields.values.isEmpty && !cs.contains '.' then
    let fields ← r.fields.addText (part 0 2) none
    let fields ← fields.addText (part 2 4) none
    let fields ← fields.addText (part 4 6) none
    some { r with fields }
  else
    let hour ← integer? (part 0 2)
    let minute ← integer? (part 2 4)
    let second ← seconds? (cs.drop 4)
    some { r with hour := some hour, minute := some minute, second := some second }

/-- The step of a number. -/
def stepNumber (r : Reading) (seen : List String) (token : String) (rest : List String) :
    Except Unreadable Step := do
  let q ← orNoDate (Quantity.parse? token)
  let cs := token.toList
  let size := cs.length
  let timeFollows := match rest with
    | a :: _ => a = ":" || (timeUnit? a).isSome
    | [] => false
  -- behind a whole date two or four digits are a time
  if r.fields.values.length = 3 && (size = 2 || size = 4) && r.hour.isNone && !timeFollows then
    let hour ← orNoDate (integer? (cs.take 2))
    let r := { r with hour := some hour }
    if size = 4 then
      let minute ← orNoDate (integer? (cs.drop 2))
      pure ({ r with minute := some minute }, 0, rest)
    else pure (r, 0, rest)
  else if size = 6 || (6 < size && cs.findIdx? (· == '.') == some 6) then
    orNoDate ((r.packedShort cs).map (·, 0, rest))
  else if size = 8 || size = 12 || size = 14 then orNoDate ((r.packed cs).map (·, 0, rest))
  else match unitOf? seen rest with
    | some (unit, taken) => (r.setTime unit token q).map (·, taken, rest)
    | none => match rest with
      | ":" :: minutes :: _ => r.clock q minutes rest
      | "-" :: _ => orNoDate (r.separated token "-" rest)
      | "/" :: _ => orNoDate (r.separated token "/" rest)
      | "." :: _ => orNoDate (r.separated token "." rest)
      | _ => orNoDate (r.lone q rest)

/-- The year that a number means when it may be written without its century: the one within fifty
years of this year. -/
def fullYear (thisYear year : Nat) : Nat :=
  if 100 ≤ year then year
  else
    let y := year + thisYear / 100 * 100
    if thisYear + 50 ≤ y then y - 100 else if y + 50 < thisYear then y + 100 else y

/-- The step of a month's name. -/
def stepMonth (thisYear : Nat) (r : Reading) (month : Nat) (rest : List String) :
    Option Step := do
  let fields ← r.fields.add month (some .month)
  let joined (sep : String) : Option Step :=
    match rest with
    | _ :: b :: more => do
      let fields ← fields.addText b.toList none
      match more with
      | c :: more' =>
        if c = sep then
          match more' with
          | d :: _ => (fields.addText d.toList none).map fun fields => ({ r with fields }, 4, rest)
          | [] => none
        else some ({ r with fields }, 2, rest)
      | [] => some ({ r with fields }, 2, rest)
    | _ => none
  match rest with
  | "-" :: _ => joined "-"
  | "/" :: _ => joined "/"
  | " " :: word :: " " :: y :: _ =>
    -- as in "January of 98"; what is no digits there is passed over
    if Text.lower word = "of" then
      if y.toList.all Text.isDigit then
        let n ← integer? y.toList
        let fields ← fields.addSized true (fullYear thisYear n) (some .year)
        some ({ r with fields }, 4, rest)
      else some ({ r with fields }, 4, rest)
    else some ({ r with fields }, 0, rest)
  | _ => some ({ r with fields }, 0, rest)

/-- The step of a zone's name.  A sign behind it counts the other way. -/
def stepZone (r : Reading) (token : String) (rest : List String) : Step :=
  let r := { r with zone := some token, offset := if token = "z" then some 0 else none }
  -- "GMT+3" says that universal time is three hours ahead; any other zone keeps its name
  let flipped (sign : String) (more : List String) : Step :=
    let zone := if isUniversalTime token then none else r.zone
    ({ r with zone, offset := none }, 0, sign :: more)
  match rest with
  | "+" :: more => flipped "-" more
  | "-" :: more => flipped "+" more
  | _ => (r, 0, rest)

/-- The step of a sign behind a time: the hours and minutes ahead of universal time, and maybe the
name of the zone between parentheses. -/
def stepOffset (r : Reading) (sign : String) (rest : List String) : Option Step := do
  let digits ← rest.head?
  let size := digits.length
  let colon := rest[1]? == some ":"
  let (hours, minutes, taken) ←
    -- as in "+0300", "+03:00" and "+3"
    if size = 4 then do
      let h ← integer? (digits.toList.take 2)
      let m ← integer? (digits.toList.drop 2)
      some (h, m, 0)
    else if colon then do
      let h ← integer? digits.toList
      let m ← (rest[2]?).bind fun s => integer? s.toList
      some (h, m, 2)
    else if size ≤ 2 then (integer? digits.toList).map (·, 0, 0)
    else none
  let ahead : Int := hours * 3600 + minutes * 60
  let r := { r with offset := some (if sign = "+" then ahead else -ahead) }
  -- as in "-0300 (BRST)"
  match rest.drop (taken + 1) with
  | a :: "(" :: name :: ")" :: _ =>
    if isFiller a && 3 ≤ name.length && r.couldBeZone false name then
      some ({ r with zone := some name }, taken + 5, rest)
    else some (r, taken + 1, rest)
  | _ => some (r, taken + 1, rest)

/-- The step of a word or a mark. -/
def stepWord (thisYear : Nat) (r : Reading) (token : String) (rest : List String) : Option Step :=
  match weekdayNamed? token with
  | some d => some ({ r with weekday := some d }, 0, rest)
  | none => match monthNamed? token with
    | some m => stepMonth thisYear r m rest
    | none => match dayHalf? token with
      | some half => match r.hour with
        | none => none
        | some hour =>
          if hour ≤ 12 then
            some ({ r with hour := some (hourInHalf hour half), half := some half }, 0, rest)
          else none
      | none =>
        if r.couldBeZone r.offset.isSome token then some (r.stepZone token rest)
        else if r.hour.isSome && (token = "+" || token = "-") then r.stepOffset token rest
        else if isFiller token then some (r, 0, rest)
        else none

/-- The step of one lexeme after those in `seen`, given backwards, and before those in `rest`. -/
def step (thisYear : Nat) (r : Reading) (seen : List String) (token : String)
    (rest : List String) : Except Unreadable Step :=
  if (Binary64.parse? token).isSome then r.stepNumber seen token rest
  else orNoDate (r.stepWord thisYear token rest)

/-- The reading of all lexemes after those in `seen`, given backwards.  A step only looks ahead, so
the lexemes that remain are fewer by at least one. -/
def steps (thisYear : Nat) (r : Reading) (seen rest : List String) : Except Unreadable Reading :=
  match rest with
  | [] => .ok r
  | token :: more =>
    match r.step thisYear seen token more with
    | .error e => .error e
    | .ok (r', taken, after) =>
      if after.length ≤ more.length then
        steps thisYear r' ((after.take taken).reverse ++ token :: seen) (after.drop taken)
      else .error .noDate
termination_by rest.length
decreasing_by simp only [List.length_drop, List.length_cons]; omega

/-- Whether anything of a date or a time was read. -/
def isEmpty (r : Reading) (day : DayFields.Day) : Bool :=
  day.year.isNone && day.month.isNone && day.day.isNone && r.weekday.isNone && r.hour.isNone
    && r.minute.isNone && r.second.isNone && r.half.isNone && r.zone.isNone && r.offset.isNone

/-- The greatest distance from universal time that can be kept, in days. -/
def greatestOffsetDays : Int := 999999999

/-- Whether the time of day and the distance from universal time exist. -/
def timeExists (r : Reading) : Bool :=
  r.hour.all (· < 24) && r.minute.all (· < 60) && r.second.all (· < 60)
    && r.offset.all fun s =>
      r.zone.any isUniversalTime
        || (-greatestOffsetDays ≤ s / 86400 && s / 86400 ≤ greatestOffsetDays)

/-- The day that was read.  A day of the month that is not given is today's, or the last one of a
shorter month. -/
def date? (today : Date) (r : Reading) : Option Date := do
  let given ← r.fields.resolve?
  if r.isEmpty given || !r.timeExists then none
  else
    let year := match given.year with
      | some y => if r.fields.fullYear then y else fullYear today.year y
      | none => today.year
    let month := given.month.getD today.month
    let last := Date.monthLength year month
    let day := given.day.getD (min today.day last)
    let date ← Date.of? year month day
    -- a day of the week counts only without a day of the month
    match r.weekday with
    | some w => if given.day.isNone then date.after? ((7 - date.weekday + w) % 7) else some date
    | none => some date

end Reading

/-- The day that the text `s` writes, when today is `today`. -/
def FreeForm.parse (today : Date) (s : String) : Except Unreadable Date :=
  (Reading.steps today.year {} [] (lexemes s)).bind fun r => orNoDate (r.date? today)

end SpendingLedger.Calendar

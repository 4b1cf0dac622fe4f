import SpendingLedger.Log.Placeholder
import SpendingLedger.Log.Record
import SpendingLedger.Text.Word

/-!
# Formats of log lines

A format is a text with places for the fields of a record.  A place is written as a percent sign,
the name of a field between parentheses, and how the field is to be written; two percent signs stand
for one.  A text serves as a format when there is something in it that looks like a place; whether
its places can be filled shows when a record is given.

## Main definitions

* `LogFormat.isValid` — whether a text can serve as a format.
* `LogFormat.fieldOf?` — the fields of a record.
* `LogFormat.line?` — the line of a record.
-/

namespace SpendingLedger.LogFormat

/-- The format of a line when none is given. -/
def usual : String := "%(asctime)s %(name)s %(levelname)s %(message)s"

/-! ### What can serve as a format -/

/-- The letters that may end a place, in either case; the last three count as the letters i and
s. -/
def endLetters : List Char := "diouxefgcrsa%DIOUXEFGCRSAİıſ".toList

/-- `cs` without the number or the star at its head. -/
def dropCount : List Char → List Char
  | '*' :: cs => cs
  | cs => cs.dropWhile Text.isDecimalDigit

/-- `cs` without the point and the number or star at its head; none when only the point stands
there. -/
def dropPrecision : List Char → Option (List Char)
  | '.' :: cs => if (dropCount cs).length = cs.length then none else some (dropCount cs)
  | cs => some cs

/-- Whether something that looks like a place, with a name of word characters, is written at the
head of `cs`. -/
def beginsWithPlace : List Char → Bool
  | '%' :: '(' :: cs =>
    match cs.takeWhile Text.isWordChar, cs.dropWhile Text.isWordChar with
    | _ :: _, ')' :: rest =>
      match dropPrecision (dropCount (rest.dropWhile Placeholder.isFlag)) with
      | some (letter :: _) => endLetters.contains letter
      | _ => false
    | _, _ => false
  | _ => false

/-- Whether `cs` can serve as a format: there is something like a place in it. -/
def isValidChars : List Char → Bool
  | [] => false
  | c :: cs => beginsWithPlace (c :: cs) || isValidChars cs

/-- Whether `format` can serve as a format. -/
def isValid (format : String) : Bool := isValidChars format.toList

/-! ### Fields -/

/-- The fields of a record that are there but not known: from where in the program it is given, at
which instant, and by which thread. -/
def hiddenFields : List String :=
  ["pathname", "filename", "module", "funcName", "lineno", "created", "msecs", "relativeCreated",
    "process", "thread"]

/-- A field of a record that is given at the time `stamp`. -/
def fieldOf? (stamp : String) (r : LogRecord) (field : String) : Option FieldValue :=
  if field = "asctime" then some (.text stamp)
  else if field = "name" then some (.text r.logger)
  else if field = "levelname" then some (.text (Level.name r.level))
  else if field = "levelno" then some (.integer r.level)
  else if field = "message" ∨ field = "msg" then some (.text r.message)
  -- no record has arguments, an exception or a stack, and all work is done in one place
  else if field = "args" then some (.other "()")
  else if ["exc_info", "exc_text", "stack_info"].contains field then some (.other "None")
  else if field = "processName" then some (.text "MainProcess")
  else if field = "threadName" then some (.text "MainThread")
  else if hiddenFields.contains field then some (.beginning "")
  else none

/-- A record as a whole.  It begins with the fields that stand before the path of the file that gave
it. -/
def wholeOf (r : LogRecord) : FieldValue :=
  .beginning (String.ofList ("\x7b'name': ".toList ++ Text.quoteChars r.logger.toList
    ++ ", 'msg': ".toList ++ Text.quoteChars r.message.toList
    ++ ", 'args': (), 'levelname': ".toList ++ Text.quoteChars (Level.name r.level).toList
    ++ ", 'levelno': ".toList ++ Integer.chars r.level ++ ", 'pathname': ".toList))

/-! ### Lines -/

/-- The name of a field up to its closing parenthesis, and the place behind it. -/
def takeNamed? (cs : List Char) : Option (List Char × Placeholder × List Char) :=
  match cs.dropWhile (· ≠ ')') with
  | [] => none
  | _ :: rest => (Placeholder.take? rest).map fun (p, after) => (cs.takeWhile (· ≠ ')'), p, after)

theorem length_lt_of_takeNamed? {cs name rest : List Char} {p : Placeholder}
    (h : takeNamed? cs = some (name, p, rest)) : rest.length < cs.length := by
  unfold takeNamed? at h
  have hname := Text.length_dropWhile_le (· ≠ ')') cs
  split at h
  · simp at h
  · next c behind hbehind =>
    rw [hbehind, List.length_cons] at hname
    obtain ⟨⟨q, after⟩, hq, heq⟩ := Option.map_eq_some_iff.1 h
    have hplace := Placeholder.length_lt_of_take? hq
    simp only [Prod.mk.injEq] at heq
    rw [← heq.2.2]
    omega

/-- A format with the fields of a record filled in; none when a place cannot be filled.  Only the
first place may be without a name, which `first` tells apart. -/
def fill? (stamp : String) (r : LogRecord) (first : Bool) : List Char → Option (List Char)
  | [] => some []
  | '%' :: '%' :: cs => (fill? stamp r first cs).map ('%' :: ·)
  | '%' :: '(' :: cs =>
    match _h : takeNamed? cs with
    | none => none
    | some (name, p, rest) => do
      let v ← fieldOf? stamp r (String.ofList name)
      let text ← p.fill? v
      let more ← fill? stamp r false rest
      some (text ++ more)
  | '%' :: cs =>
    match _h : Placeholder.take? cs with
    | none => none
    | some (p, rest) => do
      let text ← if first then p.fill? (wholeOf r) else none
      let more ← fill? stamp r false rest
      some (text ++ more)
  | c :: cs => (fill? stamp r first cs).map (c :: ·)
termination_by cs => cs.length
decreasing_by
  all_goals first
    | (have h := length_lt_of_takeNamed? ‹_›; simp only [List.length_cons]; omega)
    | (have h := Placeholder.length_lt_of_take? ‹_›; simp only [List.length_cons]; omega)
    | simp only [List.length_cons]; omega

/-- The line of a record. -/
def line? (format stamp : String) (r : LogRecord) : Option String :=
  (fill? stamp r true format.toList).map String.ofList

end SpendingLedger.LogFormat

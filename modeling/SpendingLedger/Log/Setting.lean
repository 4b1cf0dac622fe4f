import SpendingLedger.Log.Record
import SpendingLedger.Text.Case
import SpendingLedger.Value

/-!
# The level that is asked for

A level is asked for by a number or a name, in an argument or else in a variable of the environment.

## Main definitions

* `Level.ofWord?` — the level that a word asks for.
* `Level.resolve` — the level of an argument and a variable.

## References

`SPEC_FULL.md`, section 8, *Ambient Stack*.
-/

namespace SpendingLedger.Level

/-- The variable of the environment that asks for a level. -/
def envName : String := "SPENDING_ANALYSIS_LOG_LEVEL"

/-- A word is made of digits that write no number: some are no decimal digits, or there are too many
of them. -/
structure BadDigits where
  word : String
  deriving DecidableEq

/-- The level that a word asks for: a number in digits, or a name in letters of either case; none
for any other word. -/
def ofWord? (s : String) : Except BadDigits (Option Level) :=
  let word := Text.upperChars (Text.trimChars s.toList)
  if word.isEmpty then .ok none
  else if word.all Text.isDigit then
    if word.all Text.isDecimalDigit then
      match Integer.ofDigits false (commonDigits word) with
      | .ok n => .ok (some n)
      | .error _ => .error ⟨String.ofList word⟩
    else .error ⟨String.ofList word⟩
  else .ok (ofName? (String.ofList word))

/-- The level that an argument of any kind asks for. -/
def ofValue? : Value → Except BadDigits (Option Level)
  | .int n => .ok (some n)
  | .bool b => .ok (some (if b then 1 else 0))
  | .text s => ofWord? s
  | _ => .ok none

/-- The level of an argument, else of the variable of the environment, else that of warnings. -/
def resolve (argument : Value) (env : Option String) : Except BadDigits Level :=
  match ofValue? argument with
  | .error e => .error e
  | .ok (some level) => .ok level
  | .ok none => match ofValue? (env.elim .null .text) with
    | .error e => .error e
    | .ok level => .ok (level.getD warning)

end SpendingLedger.Level

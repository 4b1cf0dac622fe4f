import SpendingLedger.Category.Resolve
import SpendingLedger.Log.Record
import SpendingLedger.Value

/-!
# The threshold for similar names

The least similarity at which a category's name decides is given by an option or by a variable of
the environment.  A threshold that makes no sense is reported and replaced by the usual one.

## Main definitions

* `Threshold.Candidate`, `Threshold.Candidate.ofValue` — a number that is proposed as threshold.
* `Threshold.resolve` — the threshold of an option and a variable.

## References

`SPEC_FULL.md`, section 4.12, *CLI*.
-/

namespace SpendingLedger.Threshold

/-- The variable of the environment that gives a threshold. -/
def envName : String := "SPENDING_ANALYSIS_NAME_THRESHOLD"

/-- The record of a threshold that is replaced. -/
def warning (message : String) : LogRecord := .warning "spending_analysis.cli" message

/-- A number that is proposed as threshold: the nearest one of the format, whether it lies between
zero and one, and its text. -/
structure Candidate where
  number : Binary64
  isInRange : Bool
  text : String
  deriving DecidableEq

namespace Candidate

/-- A number of the format as a candidate. -/
def ofNumber (x : Binary64) : Candidate :=
  ⟨x, Binary64.zero.le x && x.le (.ofRatio false 1 1), x.text⟩

/-- An integer as a candidate. -/
def ofInt (n : Int) : Candidate :=
  ⟨.ofRatio (n < 0) n.natAbs 1, 0 ≤ n && n ≤ 1, String.ofList (Integer.chars n)⟩

/-- Whether a numeral lies between zero and one. -/
def isInUnit (x : Numeral) : Bool :=
  let size := (natDigits x.coefficient).length
  x.coefficient = 0 || !x.negative && (size + x.exponent ≤ 0
    || size + x.exponent = 1 && x.coefficient = powerOfTen (size - 1))

/-- Why a value is no candidate. -/
inductive Misfit
  /-- It is no number. -/
  | notNumber
  /-- It is a decimal datum that has no place among the numbers. -/
  | unordered
  deriving DecidableEq

/-- A decimal as a candidate. -/
def ofDecimal (d : Decimal) : Except Misfit Candidate :=
  let text := String.join ["Decimal('", d.text, "')"]
  match d with
  | .finite x => .ok ⟨x.toBinary64, isInUnit x, text⟩
  | .infinite s => .ok ⟨.infinite s, false, text⟩
  | .nan .. => .error .unordered

/-- The candidate that a value of any kind is; null is none. -/
def ofValue : Value → Except Misfit (Option Candidate)
  | .null => .ok none
  | .bool b => .ok (some (ofInt (if b then 1 else 0)))
  | .int n => .ok (some (ofInt n))
  | .float x => .ok (some (ofNumber x))
  | .decimal d => (ofDecimal d).map some
  | .text _ | .list _ | .table _ => .error .notNumber

end Candidate

/-- A candidate if it lies between zero and one, else the usual threshold; and what is logged. -/
def checked (c : Candidate) : Binary64 × List LogRecord :=
  if c.isInRange then (c.number, [])
  else (defaultNameThreshold,
    [warning s!"Name threshold {c.text} outside [0, 1]; using {defaultNameThreshold.text}"])

/-- The threshold of an option, else of the variable of the environment, else the usual one; and
what is logged. -/
def resolve (option : Option Candidate) (env : Option String) : Binary64 × List LogRecord :=
  match option with
  | some c => checked c
  | none =>
    match env with
    | none => (defaultNameThreshold, [])
    | some s =>
      if s = "" then (defaultNameThreshold, [])
      else match Binary64.parse? s with
        | some x => checked (.ofNumber x)
        | none =>
          (defaultNameThreshold, [warning s!"Ignoring non-numeric {envName}={Text.quote s}"])

end SpendingLedger.Threshold

import SpendingLedger.Text.Quoted

/-!
# Errors of queries

A query fails because of its parentheses or because a condition cannot be evaluated.

## Main definitions

* `Fault` — why a condition cannot be evaluated.
* `QueryError` — why a query cannot be compiled or evaluated.
* `ErrorClass` — the classes of these errors, each with the words that begin its messages.

## References

`SPEC_FULL.md`, section 7, *Error Handling*.
-/

namespace SpendingLedger.Query

/-- Why a condition or a program of conditions has no truth value. -/
inductive Fault
  /-- A text writes no day. -/
  | unrecognizedDate (text : String)
  /-- A text writes a date with more digits than can be reckoned with. -/
  | overlongDate (text : String)
  /-- The value of an amount is no finite number. -/
  | notANumber (value : String)
  /-- A comparator does not apply to a field. -/
  | comparatorMisapplied (comparator field : String)
  /-- There is no such field. -/
  | unknownField (field : String)
  /-- A negation without an operand. -/
  | missingOperand
  /-- An operator without its two operands. -/
  | missingOperands (operator : String)
  /-- A program that leaves no value or several. -/
  | noSingleCondition
  deriving DecidableEq

/-- What a fault is. -/
def Fault.detail : Fault → String
  | .unrecognizedDate text => String.join ["unrecognized date ", Text.quote text]
  | .overlongDate text => String.join ["too many digits in date ", Text.quote text]
  | .notANumber value => String.join ["amount value is not a number: ", Text.quote value]
  | .comparatorMisapplied op field =>
    String.join ["operator ", Text.quote op, " is not valid for ", field]
  | .unknownField field => String.join ["unknown field ", Text.quote field]
  | .missingOperand => "NOT needs an operand"
  | .missingOperands op => s!"{op} needs two operands"
  | .noSingleCondition => "query does not reduce to a single condition"

/-- The classes of query errors. -/
inductive ErrorClass
  | query
  | parentheses
  | invalid
  deriving DecidableEq

/-- The words that begin the messages of a class. -/
def ErrorClass.heading : ErrorClass → String
  | .query => "Invalid query"
  | .parentheses => "Mismatched parentheses"
  | .invalid => "Invalid syntax"

/-- The message of an error of a class; an empty detail counts as none. -/
def ErrorClass.message (kind : ErrorClass) : Option String → String
  | none => kind.heading
  | some detail => if detail = "" then kind.heading else s!"{kind.heading}: {detail}"

/-- Why a query has no result. -/
inductive QueryError
  | mismatchedParentheses
  /-- A token names an operator that the language does not have. -/
  | unknownOperator (name : String)
  | invalid (fault : Fault)
  deriving DecidableEq

/-- Whether an error lies in the query, which is reported, and not in the size of a number. -/
def QueryError.isReported : QueryError → Bool
  | .invalid (.overlongDate _) => false
  | _ => true

/-- What is said of a query that has no result. -/
def QueryError.message : QueryError → String
  | .mismatchedParentheses => ErrorClass.parentheses.message none
  | .unknownOperator name => Text.quote name
  | .invalid fault => ErrorClass.invalid.message (some fault.detail)

end SpendingLedger.Query

import SpendingLedger.Text.Case
import SpendingLedger.Text.Space

/-!
# Tokens of the search language

A query is a sequence of the operators `AND`, `OR` and `NOT`, in letters of either case, of
parentheses, and of terms.  A term is a maximal run of characters that are neither space nor
parentheses and that do not write an operator.

## Main definitions

* `Operator`, `Token` — the operators and the tokens.
* `Token.ofRun` — the token that a run of characters is.
* `tokensFrom`, `tokenize` — the tokens of a text behind a run, and of a query.

## References

`SPEC_FULL.md`, section 4.1, *Tokenizer*.
-/

namespace SpendingLedger.Query

/-- The operators on conditions. -/
inductive Operator
  | not
  | and
  | or
  deriving DecidableEq

/-- The word that writes an operator. -/
def Operator.text : Operator → String
  | .not => "NOT"
  | .and => "AND"
  | .or => "OR"

/-- The operator that a word in capitals writes. -/
def Operator.ofText? (s : String) : Option Operator :=
  if s = "NOT" then some .not
  else if s = "AND" then some .and
  else if s = "OR" then some .or
  else none

@[simp] theorem Operator.ofText?_text (op : Operator) : ofText? op.text = some op := by
  cases op <;> decide

/-- A token of a query. -/
inductive Token
  | term (text : String)
  | operator (op : Operator)
  /-- A word in the place of an operator that is not one of the language; no query text gives it. -/
  | unknownOperator (name : String)
  | openParen
  | closeParen
  deriving DecidableEq

/-- The text of a token. -/
def Token.text : Token → String
  | .term s => s
  | .operator op => op.text
  | .unknownOperator name => name
  | .openParen => "("
  | .closeParen => ")"

/-- The token that a run of characters is. -/
def Token.ofRun (cs : List Char) : Token :=
  match Operator.ofText? (String.ofList (Text.upperChars cs)) with
  | some op => .operator op
  | none => .term (String.ofList cs)

/-- Whether `c` can stand in a term. -/
def isTermChar (c : Char) : Bool := !Text.isSpace c && c ≠ '(' && c ≠ ')'

/-- The token of a run that has ended, given with its last character first; an empty run is none. -/
def endedRun (run : List Char) : List Token :=
  if run.isEmpty then [] else [Token.ofRun run.reverse]

/-- The token of a character that ends a run; space is none. -/
def endToken (c : Char) : List Token :=
  if c = '(' then [.openParen] else if c = ')' then [.closeParen] else []

/-- The tokens of `cs` behind the run `run`, which is given with its last character first. -/
def tokensFrom (run : List Char) : List Char → List Token
  | [] => endedRun run
  | c :: cs =>
    if isTermChar c then tokensFrom (c :: run) cs
    else endedRun run ++ endToken c ++ tokensFrom [] cs

/-- The tokens of a query, the specification's `tokenize`. -/
def tokenize (query : String) : List Token := tokensFrom [] query.toList

@[simp] theorem endedRun_nil : endedRun [] = [] := rfl

@[simp] theorem tokensFrom_nil (run : List Char) : tokensFrom run [] = endedRun run := rfl

theorem tokensFrom_cons (run : List Char) (c : Char) (cs : List Char) :
    tokensFrom run (c :: cs) =
      if isTermChar c then tokensFrom (c :: run) cs
      else endedRun run ++ endToken c ++ tokensFrom [] cs := rfl

/-- A character that ends a run cuts a query in two. -/
theorem tokensFrom_append_cons {c : Char} (h : isTermChar c = false) (run xs ys : List Char) :
    tokensFrom run (xs ++ c :: ys) = tokensFrom run xs ++ endToken c ++ tokensFrom [] ys := by
  induction xs generalizing run with
  | nil => simp [tokensFrom_cons, h]
  | cons x xs ih =>
    by_cases hx : isTermChar x <;> simp [tokensFrom_cons, hx, ih]

end SpendingLedger.Query

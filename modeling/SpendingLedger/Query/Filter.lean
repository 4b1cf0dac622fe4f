import SpendingLedger.Log.Record
import SpendingLedger.Query.Program
import SpendingLedger.Query.Term

/-!
# Searching a ledger

A query is compiled once and then decided for each transaction.  A blank query asks for nothing and
keeps every transaction.

## Main definitions

* `CompiledQuery`, `compile` — a query with its program.
* `CompiledQuery.holds` — whether a transaction satisfies a query.
* `filter` — the transactions that satisfy a query, in order.

## References

`SPEC_FULL.md`, section 4.4, *Query Engine*.
-/

namespace SpendingLedger.Query

/-- A query that is not blank, and its program. -/
structure CompiledQuery where
  text : String
  program : Program
  deriving DecidableEq

/-- The compiled form of a query, none of a blank one: the specification's `compile_query`. -/
def compile (query : String) : Except QueryError (Option CompiledQuery) :=
  match tokenize query with
  | [] => .ok none
  | tokens => (Program.ofTokens tokens).map fun program => some ⟨query, program⟩

/-- Whether `t` satisfies a query, the specification's `CompiledQuery.matches`. -/
def CompiledQuery.holds (today : Date) (q : CompiledQuery) (t : Transaction) :
    Except QueryError Bool :=
  (q.program.eval fun term => evalTerm today term t).mapError .invalid

/-- The members of `ledger` that satisfy a condition, or the error of the first one for which the
condition has no truth value. -/
def select (holds : Transaction → Except QueryError Bool) :
    List Transaction → Except QueryError (List Transaction)
  | [] => .ok []
  | t :: rest =>
    match holds t with
    | .error e => .error e
    | .ok keep => (select holds rest).map fun kept => if keep then t :: kept else kept

/-- The transactions of `ledger` that satisfy a query, in order: the specification's
`filter_transactions`. -/
def filter (today : Date) (query : String) (ledger : List Transaction) :
    Except QueryError (List Transaction) :=
  match compile query with
  | .error e => .error e
  | .ok none => .ok ledger
  | .ok (some q) => select (q.holds today) ledger

/-! ### What is logged -/

/-- The record that a query was compiled. -/
def CompiledQuery.compiledRecord (q : CompiledQuery) : LogRecord :=
  let steps := q.program.map fun i => Text.quoteChars i.token.text.toList
  .debug "spending_analysis.query"
    s!"Compiled query {Text.quote q.text} to postfix [{String.ofList (Value.commaJoined steps)}]"

/-- The record of how many transactions a query kept. -/
def CompiledQuery.keptRecord (q : CompiledQuery) (kept total : Nat) : LogRecord :=
  .debug "spending_analysis.query"
    s!"Query {Text.quote q.text} kept {kept} of {total} transactions"

/-- The records of a search of `ledger`, in order. -/
def filterRecords (today : Date) (query : String) (ledger : List Transaction) : List LogRecord :=
  match compile query with
  | .ok (some q) => match select (q.holds today) ledger with
    | .ok kept => [q.compiledRecord, q.keptRecord kept.length ledger.length]
    | .error _ => [q.compiledRecord]
  | _ => []

end SpendingLedger.Query

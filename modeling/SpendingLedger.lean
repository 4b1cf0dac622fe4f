import SpendingLedger.Amount
import SpendingLedger.Calendar.Date
import SpendingLedger.Calendar.DayFields
import SpendingLedger.Calendar.FreeForm
import SpendingLedger.Calendar.Lexeme
import SpendingLedger.Calendar.Literal
import SpendingLedger.Category.Dictionary
import SpendingLedger.Category.Edit
import SpendingLedger.Category.Name
import SpendingLedger.Category.Resolve
import SpendingLedger.Category.Similarity
import SpendingLedger.CommandLine.Arguments
import SpendingLedger.CommandLine.Command
import SpendingLedger.CommandLine.Execution
import SpendingLedger.CommandLine.Run
import SpendingLedger.Csv.Reader
import SpendingLedger.Disk.Change
import SpendingLedger.Disk.Path
import SpendingLedger.Disk.Tree
import SpendingLedger.Disk.Utf8
import SpendingLedger.Json.Reader
import SpendingLedger.Json.Writer
import SpendingLedger.Ledger
import SpendingLedger.Log.Format
import SpendingLedger.Log.Logger
import SpendingLedger.Log.Placeholder
import SpendingLedger.Log.Record
import SpendingLedger.Log.Setting
import SpendingLedger.Main
import SpendingLedger.Number.Binary64
import SpendingLedger.Number.Decimal
import SpendingLedger.Number.Integer
import SpendingLedger.Number.Notation
import SpendingLedger.Number.Numeral
import SpendingLedger.Number.Power
import SpendingLedger.Number.Shortest
import SpendingLedger.Number.Significant
import SpendingLedger.Proofs.Amount.Decoration
import SpendingLedger.Proofs.Amount.Finite
import SpendingLedger.Proofs.Amount.Plain
import SpendingLedger.Proofs.Calendar.Literal
import SpendingLedger.Proofs.Category.Cascade
import SpendingLedger.Proofs.Category.Contenders
import SpendingLedger.Proofs.Category.Growth
import SpendingLedger.Proofs.Category.Lookup
import SpendingLedger.Proofs.Category.Names
import SpendingLedger.Proofs.Category.Permutation
import SpendingLedger.Proofs.Category.Reinforcement
import SpendingLedger.Proofs.Category.Similarity
import SpendingLedger.Proofs.Category.Threshold
import SpendingLedger.Proofs.Category.WellFormed
import SpendingLedger.Proofs.CommandLine.Addressed
import SpendingLedger.Proofs.CommandLine.Assigned
import SpendingLedger.Proofs.CommandLine.Changes
import SpendingLedger.Proofs.CommandLine.Import
import SpendingLedger.Proofs.CommandLine.Listing
import SpendingLedger.Proofs.CommandLine.Reachable
import SpendingLedger.Proofs.CommandLine.Refusal
import SpendingLedger.Proofs.CommandLine.Saving
import SpendingLedger.Proofs.Csv.RoundTrip
import SpendingLedger.Proofs.Disk.Replace
import SpendingLedger.Proofs.Disk.Tree
import SpendingLedger.Proofs.Json.LineEnds
import SpendingLedger.Proofs.Json.Number
import SpendingLedger.Proofs.Json.RoundTrip
import SpendingLedger.Proofs.Json.Stability
import SpendingLedger.Proofs.Ledger.Backfill
import SpendingLedger.Proofs.Ledger.Lookup
import SpendingLedger.Proofs.Ledger.Register
import SpendingLedger.Proofs.Ledger.Sound
import SpendingLedger.Proofs.Log.Setting
import SpendingLedger.Proofs.Number.Digits
import SpendingLedger.Proofs.Number.Order
import SpendingLedger.Proofs.Number.Overflow
import SpendingLedger.Proofs.Number.ReadBack
import SpendingLedger.Proofs.Number.Rounding
import SpendingLedger.Proofs.Number.Spelling
import SpendingLedger.Proofs.Query.Acceptance
import SpendingLedger.Proofs.Query.Balance
import SpendingLedger.Proofs.Query.Comparison
import SpendingLedger.Proofs.Query.Compile
import SpendingLedger.Proofs.Query.Compose
import SpendingLedger.Proofs.Query.Days
import SpendingLedger.Proofs.Query.Faults
import SpendingLedger.Proofs.Query.Grammar
import SpendingLedger.Proofs.Query.Mention
import SpendingLedger.Proofs.Query.Postorder
import SpendingLedger.Proofs.Query.Program
import SpendingLedger.Proofs.Query.Select
import SpendingLedger.Proofs.Query.Tokens
import SpendingLedger.Proofs.Query.Verbatim
import SpendingLedger.Proofs.Statement.Amounts
import SpendingLedger.Proofs.Statement.Cells
import SpendingLedger.Proofs.Statement.Clean
import SpendingLedger.Proofs.Statement.Columns
import SpendingLedger.Proofs.Statement.Load
import SpendingLedger.Proofs.Statement.Rows
import SpendingLedger.Proofs.Statement.Table
import SpendingLedger.Proofs.Store.Acceptance
import SpendingLedger.Proofs.Store.Atomic
import SpendingLedger.Proofs.Store.Clean
import SpendingLedger.Proofs.Store.Dictionary
import SpendingLedger.Proofs.Store.Sound
import SpendingLedger.Proofs.Store.Transactions
import SpendingLedger.Proofs.Text.Case
import SpendingLedger.Proofs.Text.Sigma
import SpendingLedger.Proofs.Text.Terminal
import SpendingLedger.Proofs.Text.Trim
import SpendingLedger.Proofs.Text.Upper
import SpendingLedger.Proofs.Text.Words
import SpendingLedger.Proofs.Totals.Groups
import SpendingLedger.Proofs.Value.Fields
import SpendingLedger.Query.Comparison
import SpendingLedger.Query.Error
import SpendingLedger.Query.Filter
import SpendingLedger.Query.Program
import SpendingLedger.Query.Term
import SpendingLedger.Query.Token
import SpendingLedger.Settings.DataDirectory
import SpendingLedger.Settings.EnvFile
import SpendingLedger.Settings.Threshold
import SpendingLedger.Statement.Rows
import SpendingLedger.Statement.Transactions
import SpendingLedger.Store.Files
import SpendingLedger.Store.Shape
import SpendingLedger.Summary
import SpendingLedger.Text.Case
import SpendingLedger.Text.CaseTable
import SpendingLedger.Text.Digit
import SpendingLedger.Text.Printable
import SpendingLedger.Text.Quoted
import SpendingLedger.Text.Ranges
import SpendingLedger.Text.Search
import SpendingLedger.Text.Space
import SpendingLedger.Text.Terminal
import SpendingLedger.Text.Word
import SpendingLedger.Transaction
import SpendingLedger.Value

import SpendingLedger.CommandLine.Arguments

/-!
# Commands

The commands that a command line can give, and the options before them that hold for every command.

## Main definitions

* `Command`, `Command.parse` — the commands and the words that give them.
* `RootOptions`, `Invocation.parse` — a whole command line.

## References

`SPEC_FULL.md`, section 4.12, *CLI*.
-/

namespace SpendingLedger.CommandLine

/-- What is to be done. -/
inductive Command
  | importCsv (path : String)
  | search (query : String)
  | summary
  | addCategory (name : String) (keyword : Option String)
  | addKeyword (category keyword : String)
  | assign (id category : String)
  | add (date description amount : String)
  | edit (id : String) (date description amount : Option String)
  | delete (id : String)
  deriving DecidableEq

namespace Command

/-- The options for the fields of a transaction. -/
def fieldFlags : List Flag :=
  ["--date", "--description", "--amount"].map fun name => ⟨name, .text, none⟩

/-- What the command of a name takes. -/
def grammar? (name : String) : Option Grammar :=
  match name with
  | "import-csv" => some
      { flags := [⟨"--csv-path", .path, none⟩], required := ["--csv-path"], arguments := 0 }
  | "search" => some { flags := [], arguments := 1 }
  | "summary" => some { flags := [], arguments := 0 }
  | "add-category" => some { flags := [⟨"--keyword", .text, some 'k'⟩], arguments := 1 }
  | "add-keyword" => some { flags := [], arguments := 2 }
  | "assign" => some { flags := [], arguments := 2 }
  | "add" => some
      { flags := fieldFlags
        required := ["--date", "--description", "--amount"]
        arguments := 0 }
  | "edit" => some { flags := fieldFlags, arguments := 1 }
  | "delete" => some { flags := [], arguments := 1 }
  | _ => none

/-- The command of a name with its options and arguments. -/
def ofWords? (name : String) (w : Words) : Option Command :=
  match name, w.arguments with
  | "import-csv", [] => (w.value? "--csv-path").map importCsv
  | "search", [query] => some (search query)
  | "summary", [] => some summary
  | "add-category", [category] => some (addCategory category (w.value? "--keyword"))
  | "add-keyword", [category, keyword] => some (addKeyword category keyword)
  | "assign", [id, category] => some (assign id category)
  | "add", [] => do
    let date ← w.value? "--date"
    let description ← w.value? "--description"
    let amount ← w.value? "--amount"
    some (add date description amount)
  | "edit", [id] =>
    some (edit id (w.value? "--date") (w.value? "--description") (w.value? "--amount"))
  | "delete", [id] => some (delete id)
  | _, _ => none

/-- What the words behind the name of a command give. -/
inductive Parsed
  | usageError
  | help
  /-- A path holds a zero character. -/
  | notPath
  | command (c : Command)
  deriving DecidableEq

/-- The command of a name and the words behind it. -/
def parse (name : String) (words : List String) : Parsed :=
  match grammar? name with
  | none => .usageError
  | some g => match g.parse words with
    | .usageError => .usageError
    | .help => .help
    | .notPath => .notPath
    | .words w => match ofWords? name w with
      | some c => .command c
      | none => .usageError

end Command

/-- The options that hold for every command. -/
structure RootOptions where
  dataDirectory : Option String := none
  threshold : Option Binary64 := none
  logLevel : Option String := none
  deriving DecidableEq

/-- A command line: the options, the name of the command and the words behind it. -/
structure Invocation where
  options : RootOptions
  name : String
  words : List String
  deriving DecidableEq

namespace Invocation

/-- The grammar of the options that hold for every command. -/
def rootGrammar : Grammar :=
  { flags :=
      [⟨"--data-dir", .path, none⟩, ⟨"--name-threshold", .number, none⟩,
        ⟨"--log-level", .text, none⟩]
    arguments := 0
    endsAtArgument := true }

/-- What a list of words gives. -/
inductive Parsed
  | usageError
  | help
  /-- A path holds a zero character. -/
  | notPath
  | invocation (i : Invocation)
  deriving DecidableEq

/-- The options of a list of words; none when the threshold is no number. -/
def options? (w : Words) : Option RootOptions :=
  let options (threshold : Option Binary64) : RootOptions :=
    { dataDirectory := w.value? "--data-dir", threshold, logLevel := w.value? "--log-level" }
  match w.value? "--name-threshold" with
  | none => some (options none)
  | some text => (Binary64.parse? text).map fun x => options (some x)

/-- What words give that do not begin with the name of a command: they are read as options, so that
help can still be asked for. -/
def parseUnknown (words : List String) : Parsed :=
  match rootGrammar.parse words with
  | .help => .help
  | .notPath => .notPath
  | _ => .usageError

/-- The command line of a list of words. -/
def parse (words : List String) : Parsed :=
  match rootGrammar.parse words with
  | .usageError => .usageError
  | .help => .help
  | .notPath => .notPath
  | .words w => match options? w, w.arguments with
    | some options, name :: rest =>
      if (Command.grammar? name).isSome then .invocation ⟨options, name, rest⟩
      else parseUnknown (name :: rest)
    | _, _ => .usageError

end Invocation

end SpendingLedger.CommandLine

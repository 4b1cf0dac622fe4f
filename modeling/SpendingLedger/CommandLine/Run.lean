import SpendingLedger.CommandLine.Execution
import SpendingLedger.Log.Logger
import SpendingLedger.Log.Setting
import SpendingLedger.Settings.DataDirectory
import SpendingLedger.Settings.Threshold
import SpendingLedger.Text.Terminal

/-!
# Runs of the program

A run takes the words of its command line and the environment, with the variables of a file in the
working directory added to it.  The command is carried out on the files that are there, and what it
reports goes to two streams: results to the first, complaints and log records to the second.

## Main definitions

* `Surroundings` — what a run depends on beside its words and the files.
* `Ended`, `Run` — how a run ends, and all that it gives.
* `run` — the run of a command line.
* `Run.output`, `Run.errors`, `Run.exitCode` — what is seen of a run from outside.
* `places` — the locations that a run looks at.

## References

`SPEC_FULL.md`, section 4.12, *CLI*.
-/

namespace SpendingLedger.CommandLine

/-- What a run depends on beside its words and the files. -/
structure Surroundings where
  environment : Environment
  /-- The home directories of users. -/
  homes : Fields String := []
  /-- The working directory. -/
  cwd : Location
  today : Date
  /-- The ids to come. -/
  mint : Mint

/-- How a run ends. -/
inductive Ended
  /-- The words are no command line. -/
  | usageError
  /-- Help was asked for. -/
  | help
  | command (ending : Ending)
  deriving DecidableEq

/-- What a run leaves and reports, the level from which its records are shown, and how it ends. -/
structure Run where
  world : World
  level : Level
  reports : List Report
  ended : Ended

/-! ### What is seen of a run -/

namespace Run

/-- Whether a record is shown. -/
def shows (level : Level) (r : LogRecord) : Bool :=
  (({} : Logging).configure level "" none).1.writes r.level

/-- A printed line as a stream shows it: control sequences are for terminals only. -/
def shown (isTerminal : Bool) (line : String) : String :=
  if isTerminal then line else Text.plain line

/-- The line of a report on the first stream, if it goes there. -/
def outputLine? (isTerminal : Bool) : Report → Option String
  | .out line => some (shown isTerminal line)
  | _ => none

/-- The line of a report on the second stream, if it goes there; records are given at the time
`stamp` and as they are. -/
def errorLine? (isTerminal : Bool) (stamp : String) (level : Level) : Report → Option String
  | .out _ => none
  | .err line => some (shown isTerminal line)
  | .log r => if shows level r then LogFormat.line? LogFormat.usual stamp r else none

/-- Lines as a text. -/
def textOf (lines : List String) : String := String.join (lines.map (· ++ "\n"))

/-- What a run writes on the first stream. -/
def output (r : Run) (isTerminal : Bool) : String :=
  textOf (r.reports.filterMap (outputLine? isTerminal))

/-- What a run writes on the second stream. -/
def errors (r : Run) (isTerminal : Bool) (stamp : String) : String :=
  textOf (r.reports.filterMap (errorLine? isTerminal stamp r.level))

/-- The exit code of a run. -/
def exitCode (r : Run) : Nat :=
  match r.ended with
  | .usageError => 2
  | .help => 0
  | .command .done => 0
  | .command .refused => 1
  | .command (.crashed _) => 1

/-- The failure that cut a run short. -/
def crash? (r : Run) : Option Crash :=
  match r.ended with
  | .command (.crashed cause) => some cause
  | _ => none

end Run

/-! ### Before the command -/

/-- The file of variables in a directory. -/
def variablesFile (cwd : Location) : Location := cwd.child ".env"

/-- The environment of a run with the variables of the file in the working directory, and what is
reported of that file. -/
def loadVariables (s : Surroundings) (d : Disk) : List Report × Except Crash Environment :=
  if EnvFile.isDisabled s.environment then ([], .ok s.environment)
  else match d.node? (variablesFile s.cwd) with
    | some (.file _) => match d.readText (variablesFile s.cwd) with
      | .error _ => ([], .error .undecodable)
      | .ok text => ((EnvFile.warnings text).map .err,
          (EnvFile.extend s.environment text).mapError fun _ => .badVariable)
    | _ => ([], .ok s.environment)

/-- The level of a run. -/
def levelOf (options : RootOptions) (env : Environment) : Except Crash Level :=
  (Level.resolve (options.logLevel.elim .null .text) (Fields.get? Level.envName env)).mapError
    fun _ => .badLevel

/-- Whether a path that is written names a directory that is there. -/
def namesDirectory (d : Disk) (cwd : Location) (path : String) : Bool :=
  path ≠ "" && !isLongPath path && match d.locate cwd (Path.ofText path) with
    | .ok l => d.node? l = some .directory
    | .error _ => false

/-- Whether the options of a command are in order: a statement is no directory. -/
def Command.isAcceptable (d : Disk) (cwd : Location) : Command → Bool
  | .importCsv path => !namesDirectory d cwd path
  | _ => true

/-! ### A whole run -/

/-- The run of a command with the words behind its name, after the reports of what came before. -/
def runCommand (settings : Settings) (w : World) (level : Level) (before : List Report)
    (name : String) (words : List String) : Run :=
  match Command.parse name words with
  | .usageError => ⟨w, level, before, .usageError⟩
  | .help => ⟨w, level, before, .help⟩
  | .notPath => ⟨w, level, before, .command (.crashed .notPath)⟩
  | .command c =>
    if c.isAcceptable w.disk settings.cwd then
      let outcome := c.run settings w
      ⟨outcome.world, level, before ++ outcome.reports, .command outcome.ending⟩
    else ⟨w, level, before, .usageError⟩

/-- The run of a command line in an environment, after the reports of what came before. -/
def runInvocation (s : Surroundings) (w : World) (before : List Report) (env : Environment)
    (i : Invocation) : Run :=
  let crashed (level : Level) (cause : Crash) : Run := ⟨w, level, before, .command (.crashed cause)⟩
  match levelOf i.options env with
  | .error cause => crashed Level.warning cause
  | .ok level => match DataDirectory.locate env s.homes s.cwd i.options.dataDirectory with
    | .error .unknownHome => crashed level .unknownHome
    | .error .zeroCharacter => crashed level .notPath
    | .ok root =>
      let (threshold, records) :=
        Threshold.resolve (i.options.threshold.map .ofNumber) (Fields.get? Threshold.envName env)
      let settings : Settings :=
        { store := ⟨root⟩, threshold, cwd := s.cwd, today := s.today, mint := s.mint }
      runCommand settings w level (before ++ logged records) i.name i.words

/-- The run of a command line. -/
def run (s : Surroundings) (w : World) (words : List String) : Run :=
  match Invocation.parse words with
  | .usageError => ⟨w, Level.warning, [], .usageError⟩
  | .help => ⟨w, Level.warning, [], .help⟩
  | .notPath => ⟨w, Level.warning, [], .command (.crashed .notPath)⟩
  | .invocation i => match loadVariables s w.disk with
    | (before, .error cause) => ⟨w, Level.warning, before, .command (.crashed cause)⟩
    | (before, .ok env) => runInvocation s w before env i

/-! ### The files of a run -/

/-- The locations on the way of a path. -/
def pathPlaces (cwd : Location) (path : String) : List Location :=
  let p := Path.ofText path
  (List.range (p.names.length + 1)).map fun n => Path.resolve cwd { p with names := p.names.take n }

/-- The locations of a store, with those of its drafts. -/
def storePlaces (store : Store) : List Location :=
  [store.transactionsFile, store.dictionaryFile].flatMap fun l =>
    [l, l.withEnding Disk.draftEnding]

/-- The locations that a run looks at, the file of variables apart, given a disk that has that
file. -/
def places (s : Surroundings) (d : Disk) (words : List String) : List Location :=
  match Invocation.parse words, loadVariables s d with
  | .invocation i, (_, .ok env) =>
    let root := (DataDirectory.locate env s.homes s.cwd i.options.dataDirectory).toOption
    let statement := match Command.parse i.name i.words with
      | .command (.importCsv path) => pathPlaces s.cwd path
      | _ => []
    root.elim [] (fun l => storePlaces ⟨l⟩) ++ statement
  | _, _ => []

end SpendingLedger.CommandLine

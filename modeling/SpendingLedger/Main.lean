import SpendingLedger.CommandLine.Run
import SpendingLedger.Disk.Change
import Std.Time

/-!
# The command line

The program as it is called: the files and variables that a run looks at are gathered, the run is
carried out on them, and what it changed is written.
-/

namespace SpendingLedger.CommandLine

/-- What is at a location. -/
def nodeAt (l : Location) : IO (Option Node) := do
  match ← (IO.FS.readBinFile l.text).toBaseIO with
  | .ok bytes => pure (some (.file (.bytes bytes.toList)))
  | .error (.inappropriateType _ 21 _) => pure (some .directory)
  | .error (.inappropriateType ..) => pure none
  | .error (.noFileOrDirectory ..) => pure none
  | .error e => throw e

/-- A disk with what is at a location and above it. -/
def survey (d : Disk) (l : Location) : IO Disk :=
  (List.range' 1 l.length).foldlM (fun d n => do
    match ← nodeAt (l.take n) with
    | some node => pure (d.set (l.take n) node)
    | none => pure d) d

/-- One change is carried out.  A file is written beside its place and then moved there. -/
def carryOut : Disk.Change → IO Unit
  | .makeDirectory l => IO.FS.createDirAll l.text
  | .writeFile l content => do
    let draft := (l.withEnding Disk.draftEnding).text
    match content with
    | .text s => IO.FS.writeFile draft s
    | .bytes bs => IO.FS.writeBinFile draft ⟨bs.toArray⟩
    IO.FS.rename draft l.text
  | .remove l => IO.FS.removeFile l.text

/-- The names of the variables that a run depends on. -/
def variableNames (d : Disk) (cwd : Location) : List String :=
  let named := match d.readText (variablesFile cwd) with
    | .ok text => EnvFile.names text
    | .error _ => []
  [EnvFile.disablingName, Level.envName, Threshold.envName, DataDirectory.envName,
    DataDirectory.homeName] ++ named

/-- The variables that are set among those with the given names. -/
def environmentOf (names : List String) : IO Environment :=
  names.foldlM (fun env name => do
    match ← IO.getEnv name with
    | some value => pure (Fields.insert name value env)
    | none => pure env) []

/-- The home directories of the system's users; none are known where there is no list of them. -/
def systemHomes : IO (Fields String) := do
  match ← (IO.FS.readFile "/etc/passwd").toBaseIO with
  | .ok accounts => pure (DataDirectory.homesOf accounts)
  | .error _ => pure []

/-- Ids that count up from a random number of 128 bits. -/
def randomMint : IO Mint := do
  let bytes ← IO.getRandomBytes 16
  let start := bytes.toList.foldl (fun n b => 256 * n + b.toNat) 0
  pure fun n => String.ofList (Text.hex 32 ((start + n) % powerOfTwo 128))

/-- Today, and the present time as log records show it. -/
def now : IO (Date × String) := do
  let t ← Std.Time.PlainDateTime.now
  let (year, month, day) := (t.date.year.toNat, t.date.month.val.toNat, t.date.day.val.toNat)
  let part (width : Nat) (n : Int) : String := String.ofList (Date.padded width n.toNat)
  let time := String.intercalate ":"
    [part 2 t.time.hour.val, part 2 t.time.minute.val, part 2 t.time.second.val]
  let milliseconds := part 3 (t.time.nanosecond.val / 1000000)
  match Date.of? year month day with
  | some today => pure (today, s!"{today.iso} {time},{milliseconds}")
  | none => throw (IO.userError "there is no such day")

/-- What is said to those who ask for help or whose words are no command line. -/
def usage : String := String.intercalate "\n"
  ["Search, categorize and summarize a personal transaction ledger.",
    "",
    "Options: --data-dir DIR, --name-threshold NUMBER, --log-level LEVEL",
    "",
    "Commands:",
    "  import-csv --csv-path FILE",
    "  search QUERY",
    "  summary",
    "  add-category NAME [--keyword WORD]",
    "  add-keyword CATEGORY KEYWORD",
    "  assign ID CATEGORY",
    "  add --date DATE --description TEXT --amount AMOUNT",
    "  edit ID [--date DATE] [--description TEXT] [--amount AMOUNT]",
    "  delete ID"]

/-- A command line is run in the working directory. -/
def perform (words : List String) : IO UInt32 := do
  let cwd := (Path.ofText (toString (← IO.currentDir))).names
  let settled ← survey {} (variablesFile cwd)
  let (today, stamp) ← now
  let surroundings : Surroundings :=
    { environment := ← environmentOf (variableNames settled cwd)
      homes := ← systemHomes
      cwd
      today
      mint := ← randomMint }
  let disk ← (places surroundings settled words).foldlM survey settled
  let r := run surroundings { disk, minted := 0 } words
  (disk.changes r.world.disk).forM carryOut
  IO.print (r.output (← (← IO.getStdout).isTty))
  IO.eprint (r.errors (← (← IO.getStderr).isTty) stamp)
  match r.ended with
  | .usageError => IO.eprintln usage
  | .help => IO.println usage
  | .command (.crashed _) => IO.eprintln "The command was cut short by an unexpected failure."
  | .command _ => pure ()
  pure (UInt32.ofNat r.exitCode)

end SpendingLedger.CommandLine

/-- Runs the command line. -/
def main (args : List String) : IO UInt32 := SpendingLedger.CommandLine.perform args

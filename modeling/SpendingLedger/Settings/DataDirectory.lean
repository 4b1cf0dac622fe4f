import SpendingLedger.Disk.Path
import SpendingLedger.Settings.EnvFile

/-!
# The data directory

The directory of the ledger is given by an option or by a variable of the environment; without
either it is a directory beside the working directory's files.  A tilde at the head of a path stands
for the home directory of the user whose name follows it, or without a name for one's own.

## Main definitions

* `DataDirectory.home?` — the home directory of a user.
* `DataDirectory.locate` — the location of the data directory.

## References

`SPEC_FULL.md`, sections 4.10, *Persistence*, and 4.12, *CLI*.
-/

namespace SpendingLedger.DataDirectory

/-- The variable of the environment that gives the data directory. -/
def envName : String := "SPENDING_ANALYSIS_DATA_DIR"

/-- The data directory when none is given. -/
def usual : String := ".ledger"

/-- The variable of the environment that gives the home directory. -/
def homeName : String := "HOME"

/-- The path of a home directory; nothing but slashes stand for the root. -/
def homePath? (text : String) : Option Path :=
  if text.toList.all (· = '/') then some ⟨1, []⟩
  else if text.toList.head? = some '~' then none
  else some (Path.ofText text)

/-- The home directory of a user, by those in `users`; without a name, that of the environment. -/
def home? (env : Environment) (users : Fields String) (name : String) : Option Path :=
  (if name = "" then Fields.get? homeName env else Fields.get? name users).bind homePath?

/-- The home directories in a list of accounts, one on a line: the first of the fields between
colons is the user's name, the sixth the home. -/
def homesOf (accounts : String) : Fields String :=
  (Text.pieces (· == '\n') accounts.toList).filterMap fun line =>
    match (Text.pieces (· == ':') line).map String.ofList with
    | name :: _ :: _ :: _ :: _ :: home :: _ => some (name, home)
    | _ => none

/-- Why there is no location. -/
inductive Unlocatable
  /-- A home directory is asked for that is not known. -/
  | unknownHome
  /-- There is a zero character in the path. -/
  | zeroCharacter
  deriving DecidableEq

/-- The path of the data directory as it is written. -/
def text (env : Environment) (option : Option String) : String :=
  match option with
  | some s => s
  | none => match Fields.get? envName env with
    | some s => if Text.isBlank s then usual else s
    | none => usual

/-- The location of the data directory, when the working directory is `cwd`.  Whose home is asked
for is looked at before the rest of the path. -/
def locate (env : Environment) (users : Fields String) (cwd : Location) (option : Option String) :
    Except Unlocatable Location :=
  let written := text env option
  let zeroInUser := match (Path.ofText written).names with
    | first :: _ => hasZeroCharacter first
    | [] => false
  match (Path.ofText written).expandHome? (home? env users) with
  | none => .error (if zeroInUser then .zeroCharacter else .unknownHome)
  | some p => if hasZeroCharacter written then .error .zeroCharacter else .ok (p.resolve cwd)

end SpendingLedger.DataDirectory

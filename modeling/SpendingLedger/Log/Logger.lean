import SpendingLedger.Log.Format
import SpendingLedger.Log.Setting

/-!
# Loggers

Loggers are named by words with points between them, and a logger stands below the one whose name
begins its own and ends at a point.  The logger of this program gets one handler, which writes
records to a stream; until then it is silent.

## Main definitions

* `Handler`, `Logging` — what becomes of the records of the program.
* `Logging.getLogger`, `Logging.configure` — the two ways to set it up.
* `Logging.isOwnLogger` — the loggers whose records the handler gets.
* `Logging.log` — one record.

## References

`SPEC_FULL.md`, section 8, *Ambient Stack*.
-/

namespace SpendingLedger

/-- The name of the logger that all loggers of the program stand below. -/
def programLogger : String := "spending_analysis"

/-- Where records go. -/
inductive Handler
  /-- Nowhere. -/
  | silent
  /-- To a stream, by a format, from a level on. -/
  | stream (name format : String) (level : Level)
  /-- Nowhere, because the format is none; no other handler is made later. -/
  | spoiled
  deriving DecidableEq

/-- What becomes of records: the handler, level and reach of the program's logger, the other loggers
that were asked for, and the streams with what was written to them. -/
structure Logging where
  handler : Option Handler := none
  level : Level := 0
  /-- Whether records are also passed to loggers above the program's. -/
  propagates : Bool := true
  /-- The names of the loggers that were asked for. -/
  known : List String := []
  /-- Whether loggers give records of a level, as decided since levels were last set. -/
  decisions : List ((String × Level) × Bool) := []
  streams : Fields String := []
  deriving DecidableEq

namespace Logging

/-! ### Names -/

/-- The name of the logger that stands above all. -/
def rootLogger : String := "root"

/-- The name by which a logger is known that is asked for by `name`; without a name it is the one
above all. -/
def nameOf (name : String) : String := if name = "" then rootLogger else name

/-- A logger is there from the time it is first asked for. -/
def know (l : Logging) (name : String) : Logging :=
  if name ∈ l.known then l else { l with known := name :: l.known }

/-- Whether the program's logger stands above the one whose name is given backwards.  The name is
cut at its points, from the last one on.  When no logger of the name that is left was asked for, a
point at the end of that name is passed over, as `skip` tells. -/
def standsBelow (known : List String) (skip : Bool) : List Char → Bool
  | [] => false
  | c :: above =>
    if c = '.' ∧ ¬skip then
      let name := String.ofList above.reverse
      name = programLogger || standsBelow known (name ∉ known) above
    else standsBelow known false above

/-- Whether a logger is the program's or stands below it. -/
def isOwnLogger (l : Logging) (name : String) : Bool :=
  name = programLogger || standsBelow l.known false name.toList.reverse

/-! ### Setting up -/

/-- A logger is asked for, as by the specification's `get_logger`: while nothing is set up, the
program is made silent. -/
def getLogger (l : Logging) (name : String) : Logging :=
  let l := l.know name
  if l.handler.isNone then { l with handler := some .silent } else l

/-- A text is no format. -/
structure BadFormat where
  format : String
  deriving DecidableEq

/-- The format that is asked for, the usual one if none is. -/
def formatOf (format : Option String) : String :=
  match format with
  | some f => if f = "" then LogFormat.usual else f
  | none => LogFormat.usual

/-- The program's records are sent to a stream, unless the format is none, as by the specification's
`configure_logging`.  Later calls change the level only. -/
def configure (l : Logging) (level : Level) (stream : String) (format : Option String) :
    Logging × Option BadFormat :=
  match l.handler with
  | some (.stream name f _) =>
    ({ l with handler := some (.stream name f level), level, decisions := [] }, none)
  | some .spoiled => ({ l with level, decisions := [] }, none)
  | some .silent | none =>
    let chosen := formatOf format
    if LogFormat.isValid chosen then
      ({ l with
          handler := some (.stream stream chosen level)
          level
          propagates := false
          decisions := [] }, none)
    else ({ l with handler := some .spoiled }, some ⟨chosen⟩)

/-- The stream `name`, made when it is named for the first time. -/
def openStream (l : Logging) (name : String) : Logging :=
  if (Fields.get? name l.streams).isSome then l
  else { l with streams := Fields.insert name "" l.streams }

/-- The level from which the program's loggers give records: their own, or without one that of
warnings. -/
def effectiveLevel (l : Logging) : Level := if l.level = 0 then Level.warning else l.level

/-! ### Records -/

/-- Whether a logger gives records of a level, those from zero down being never given.  Loggers that
are not the program's have the level of warnings. -/
def gives (l : Logging) (own : Bool) (level : Level) : Bool :=
  0 < level && (if own then l.effectiveLevel else Level.warning) ≤ level

/-- Whether the handler takes records of a level. -/
def takes (l : Logging) (level : Level) : Bool :=
  match l.handler with
  | some (.stream _ _ least) => least ≤ level
  | _ => false

/-- Whether a record of the program is written. -/
def writes (l : Logging) (level : Level) : Bool := l.gives true level && l.takes level

/-- Whether a logger gives records of a level.  It decides when it is first asked, and remembers
that. -/
def decide (l : Logging) (name : String) (level : Level) : Bool × Logging :=
  match l.decisions.lookup (name, level) with
  | some given => (given, l)
  | none =>
    let given := l.gives (l.isOwnLogger name) level
    (given, { l with decisions := ((name, level), given) :: l.decisions })

/-- `text` added to a stream. -/
def write (l : Logging) (stream text : String) : Logging :=
  let before := (Fields.get? stream l.streams).getD ""
  { l with streams := Fields.insert stream (before ++ text) l.streams }

/-- One record is given, by a logger that is asked for.  A record that does not fit the format is
lost. -/
def log (l : Logging) (stamp : String) (r : LogRecord) : Logging :=
  let (given, l) := (l.know r.logger).decide r.logger r.level
  match l.handler with
  | some (.stream name format _) =>
    if given && l.takes r.level && l.isOwnLogger r.logger then
      match LogFormat.line? format stamp r with
      | some line => l.write name (line ++ "\n")
      | none => l
    else l
  | _ => l

end Logging

end SpendingLedger

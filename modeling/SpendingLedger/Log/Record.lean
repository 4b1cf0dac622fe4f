/-!
# Log records

What the program does is told in records, each with the logger it comes from and a level.  Levels
are integers; five of them have names.

## Main definitions

* `Level` — levels and their names.
* `LogRecord` — a record.
-/

namespace SpendingLedger

/-- A level of importance. -/
abbrev Level := Int

namespace Level

def debug : Level := 10
def info : Level := 20
def warning : Level := 30
def error : Level := 40
def critical : Level := 50

/-- The name of a level. -/
def name (level : Level) : String :=
  if level = 50 then "CRITICAL"
  else if level = 40 then "ERROR"
  else if level = 30 then "WARNING"
  else if level = 20 then "INFO"
  else if level = 10 then "DEBUG"
  else if level = 0 then "NOTSET"
  else s!"Level {level}"

/-- The level that a name in capitals stands for. -/
def ofName? (s : String) : Option Level :=
  if s = "CRITICAL" ∨ s = "FATAL" then some critical
  else if s = "ERROR" then some error
  else if s = "WARNING" ∨ s = "WARN" then some warning
  else if s = "INFO" then some info
  else if s = "DEBUG" then some debug
  else if s = "NOTSET" then some 0
  else none

end Level

/-- A record of something that was done. -/
structure LogRecord where
  logger : String
  level : Level
  message : String
  deriving DecidableEq

namespace LogRecord

/-- A record for those who look for a mistake. -/
def debug (logger message : String) : LogRecord := ⟨logger, Level.debug, message⟩

/-- A record of normal work. -/
def info (logger message : String) : LogRecord := ⟨logger, Level.info, message⟩

/-- A record of something unexpected. -/
def warning (logger message : String) : LogRecord := ⟨logger, Level.warning, message⟩

/-- A record on one line, without its time. -/
def line (r : LogRecord) : String := s!"{r.logger} {Level.name r.level} {r.message}"

end LogRecord

end SpendingLedger

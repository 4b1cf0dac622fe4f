import SpendingLedger.Disk.Tree
import SpendingLedger.Json.Reader
import SpendingLedger.Json.Writer
import SpendingLedger.Log.Record
import SpendingLedger.Store.Shape

/-!
# Stored ledgers and dictionaries

A ledger and its dictionary are kept in two files of one directory.  What was never saved is empty,
or the dictionary to begin with.

## Main definitions

* `Store` — the directory.
* `Store.LoadError` — why a file cannot be loaded.
* `Store.loadTransactions`, `Store.loadDictionary` — what is stored.
* `Store.saveTransactions`, `Store.saveDictionary` — the disk with something stored.

## References

`SPEC_FULL.md`, section 4.10, *Persistence*.
-/

namespace SpendingLedger

/-- Where a ledger and its dictionary are kept, the specification's `LedgerStore`. -/
structure Store where
  root : Location
  deriving DecidableEq

namespace Store

/-- The file of the ledger. -/
def transactionsFile (s : Store) : Location := s.root.child "transactions.json"

/-- The file of the dictionary. -/
def dictionaryFile (s : Store) : Location := s.root.child "dictionary.json"

/-! ### Errors -/

/-- What a file is expected to hold. -/
inductive Expected
  | transactionList
  | keywordDictionary
  deriving DecidableEq

/-- The words for what a file is expected to hold. -/
def Expected.text : Expected → String
  | .transactionList => "a transaction list"
  | .keywordDictionary => "a keyword dictionary"

/-- Why a file cannot be loaded. -/
inductive LoadError
  | unreadable (e : Disk.ReadError)
  | notJson (file : Location) (place : Json.Place)
  | integerTooLong (e : Integer.TooLong)
  /-- Lists and objects stand too deep. -/
  | tooDeep
  /-- An amount is too large. -/
  | misfit (e : Amount.Misfit)
  | wrongShape (file : Location) (expected : Expected) (findings : List Finding)
  | duplicateName (e : CategoryDictionary.DuplicateName)
  deriving DecidableEq

/-- Whether a failure is one of the contents of a file, which is reported, and none of the file
system, of the depth of values or of the size of numbers. -/
def LoadError.isOfContents : LoadError → Bool
  | .unreadable (.undecodable _) => true
  | .unreadable (.file _) => false
  | .tooDeep => false
  | .misfit _ => false
  | _ => true

/-- A finding on one line: the path to it, without what is wrong there. -/
def findingText (f : Finding) : String := String.intercalate "." f.path

/-- What is said of a file that does not hold what it should, before the findings. -/
def shapeHeadline (file : Location) (expected : Expected) : String :=
  s!"{file.text} does not hold {expected.text}"

/-- What is said of a file that cannot be loaded.  The paths of the findings stand in for the report
of a wrong shape, whose wording the specification leaves to the validation. -/
def LoadError.message : LoadError → String
  | .unreadable (.undecodable e) => e.message
  | .unreadable (.file _) => ""
  | .notJson file place => s!"{file.text} is not valid JSON: {place.message}"
  | .integerTooLong e => e.message
  | .tooDeep => ""
  | .misfit _ => ""
  | .wrongShape file expected findings =>
    shapeHeadline file expected ++ ": " ++ String.intercalate ", " (findings.map findingText)
  | .duplicateName e => e.message

/-! ### Loading -/

/-- The value in a JSON file. -/
def readValue (d : Disk) (file : Location) : Except LoadError Value :=
  match d.readText file with
  | .error e => .error (.unreadable e)
  | .ok text => match Json.read text with
    | .ok v => .ok v
    | .error (.syntaxFault place) => .error (.notJson file place)
    | .error (.integerTooLong e) => .error (.integerTooLong e)
    | .error .tooDeep => .error .tooDeep

/-- The transactions that a file holds. -/
def readTransactions (d : Disk) (file : Location) : Except LoadError (List Transaction) :=
  match readValue d file with
  | .error e => .error e
  | .ok v => match Shape.transactions v with
    | .error e => .error (.misfit e)
    | .ok (.error findings) => .error (.wrongShape file .transactionList findings)
    | .ok (.ok ts) => .ok ts

/-- The stored ledger, empty when none was saved. -/
def loadTransactions (s : Store) (d : Disk) : Except LoadError (List Transaction) :=
  match d.exists? s.transactionsFile with
  | .error e => .error (.unreadable (.file e))
  | .ok true => readTransactions d s.transactionsFile
  | .ok false => .ok []

/-- The dictionary that a file holds. -/
def readDictionary (d : Disk) (file : Location) : Except LoadError CategoryDictionary :=
  match readValue d file with
  | .error e => .error e
  | .ok v => match Shape.dictionary v with
    | .error findings => .error (.wrongShape file .keywordDictionary findings)
    | .ok entries => (CategoryDictionary.ofEntries entries).mapError .duplicateName

/-- Whether no dictionary was saved. -/
def usesStarter (s : Store) (d : Disk) : Bool := !d.contains s.dictionaryFile

/-- The stored dictionary, the one to begin with when none was saved. -/
def loadDictionary (s : Store) (d : Disk) : Except LoadError CategoryDictionary :=
  match d.exists? s.dictionaryFile with
  | .error e => .error (.unreadable (.file e))
  | .ok true => readDictionary d s.dictionaryFile
  | .ok false => .ok .starter

/-! ### Saving -/

/-- A value as the text of a file. -/
def document (v : Value) : String := Json.render v ++ "\n"

/-- The disk with a ledger stored, and why that failed. -/
def saveTransactions (s : Store) (d : Disk) (ts : List Transaction) : Disk × Option FileError :=
  d.replaceFile s.transactionsFile (document (Shape.ofTransactions ts))

/-- The disk with a dictionary stored, and why that failed. -/
def saveDictionary (s : Store) (d : Disk) (dictionary : CategoryDictionary) :
    Disk × Option FileError :=
  d.replaceFile s.dictionaryFile (document (Shape.ofDictionary dictionary))

/-! ### What is logged -/

/-- The records of a ledger that was loaded; there is none if nothing was saved. -/
def loadedRecords (s : Store) (d : Disk) (count : Nat) : List LogRecord :=
  if d.contains s.transactionsFile then
    [.debug "spending_analysis.persistence"
      s!"Loaded {count} transactions from {s.transactionsFile.text}"]
  else []

/-- The record of a ledger that was saved. -/
def savedTransactionsRecord (s : Store) (count : Nat) : LogRecord :=
  .debug "spending_analysis.persistence"
    s!"Saved {count} transactions to {s.transactionsFile.text}"

/-- The record of a dictionary that was saved. -/
def savedDictionaryRecord (s : Store) (count : Nat) : LogRecord :=
  .debug "spending_analysis.persistence"
    s!"Saved {count} categories to {s.dictionaryFile.text}"

end Store

end SpendingLedger

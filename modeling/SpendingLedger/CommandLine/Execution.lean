import SpendingLedger.Category.Edit
import SpendingLedger.CommandLine.Command
import SpendingLedger.Ledger
import SpendingLedger.Store.Files

/-!
# Carrying out commands

A command is carried out on the files and the ids that it finds, and leaves them as they are after
it.  It ends well, or it is refused with a line that says why, or it is cut short by a failure that
it does not report.

## Main definitions

* `Settings`, `World` — what a command depends on, and what it may change.
* `Report`, `Ending`, `Outcome` — what a command prints and logs, how it ends, and what it leaves.
* `Command.run` — the outcome of a command.

## References

`SPEC_FULL.md`, section 4.12, *CLI*.
-/

namespace SpendingLedger.CommandLine

/-- What a command depends on. -/
structure Settings where
  store : Store
  threshold : Binary64
  /-- The working directory. -/
  cwd : Location
  today : Date
  /-- The ids to come. -/
  mint : Mint

/-- What a command may change: the files, and how many ids are minted. -/
structure World where
  disk : Disk
  minted : Nat

/-- A line that is printed or a record that is logged. -/
inductive Report
  | out (line : String)
  | err (line : String)
  | log (record : LogRecord)
  deriving DecidableEq

/-- The failures that a command does not report. -/
inductive Crash
  | file (e : FileError)
  | undecodable
  | integerTooLong
  /-- Stored lists and objects stand too deep. -/
  | tooDeep
  /-- An amount is too large. -/
  | amountTooLarge
  /-- A date has more digits than can be reckoned with. -/
  | dateTooLong
  /-- A minted id is taken. -/
  | idTaken
  /-- The level that is asked for is made of digits that are no number. -/
  | badLevel
  /-- A home directory is asked for that is not known. -/
  | unknownHome
  /-- A path holds a zero character. -/
  | notPath
  /-- A variable is given that no environment can hold. -/
  | badVariable
  deriving DecidableEq

/-- How a command ends. -/
inductive Ending
  | done
  | refused
  | crashed (cause : Crash)
  deriving DecidableEq

/-- What a command leaves, what it reports, and how it ends. -/
structure Outcome where
  world : World
  reports : List Report
  ending : Ending

/-! ### Endings -/

/-- The reports of records. -/
def logged (records : List LogRecord) : List Report := records.map .log

namespace World

/-- A command that ends well. -/
def done (w : World) (reports : List Report) : Outcome := ⟨w, reports, .done⟩

/-- A command that is refused. -/
def refused (w : World) (reports : List Report) (message : String) : Outcome :=
  ⟨w, reports ++ [.err message], .refused⟩

/-- A command that is refused because of an error. -/
def refusedFor (w : World) (reports : List Report) (error : String) : Outcome :=
  w.refused reports s!"Error: {error}"

/-- A command that is cut short. -/
def crashed (w : World) (reports : List Report) (cause : Crash) : Outcome :=
  ⟨w, reports, .crashed cause⟩

/-- The failure of a file that cannot be loaded. -/
def crashOf : Store.LoadError → Crash
  | .unreadable (.file e) => .file e
  | .unreadable (.undecodable _) => .undecodable
  | .misfit _ => .amountTooLarge
  | .tooDeep => .tooDeep
  | _ => .integerTooLong

/-- A command that cannot load a file. -/
def unloaded (w : World) (reports : List Report) (e : Store.LoadError) : Outcome :=
  if e.isOfContents then w.refusedFor reports e.message else w.crashed reports (crashOf e)

end World

namespace Settings

/-- The records of a ledger that was loaded. -/
def loadedReports (s : Settings) (w : World) (ledger : Ledger) : List Report :=
  logged (s.store.loadedRecords w.disk ledger.length)

/-- A ledger is saved, and then the rest is reported. -/
def saveLedger (s : Settings) (w : World) (reports : List Report) (ledger : Ledger)
    (rest : List Report) : Outcome :=
  match s.store.saveTransactions w.disk ledger with
  | (disk, some e) => { w with disk }.crashed reports (.file e)
  | (disk, none) =>
    { w with disk }.done
      (reports ++ Report.log (s.store.savedTransactionsRecord ledger.length) :: rest)

end Settings

/-! ### What is printed -/

/-- The line of a transaction. -/
def transactionLine (t : Transaction) : String :=
  String.intercalate "\t" [t.id, t.date, t.descriptionText, t.amount.fixed 2, t.categoryName]

/-- The line that tells the category which a transaction was given. -/
def assignmentLine (id category : String) : String := String.intercalate "\t" [id, category]

/-- The lines of totals. -/
def totalsReports (totals : Totals) : List Report :=
  totals.map fun (category, total) => .out s!"{category}\t{total.fixed 2}"

/-- The line that tells how many transactions have no category, if any has none. -/
def pendingReports (ts : List Transaction) : List Report :=
  match ts.countP fun t => t.categoryName = uncategorized with
  | 0 => []
  | n => [.err (s!"{n} transaction(s) are {uncategorized}; "
      ++ "use 'assign' or 'add-keyword' to categorize them.")]

/-- What is said of an id that no transaction has. -/
def unknownId (id : String) : String := String.join ["unknown transaction id: ", Text.quote id]

/-- What is said of a name that no category has. -/
def unknownCategory (name : String) : String := String.join ["unknown category: ", Text.quote name]

/-- The day of a date literal in the form `YYYY-MM-DD`. -/
def isoDate? (text : String) : Option String :=
  match DateLiteral.read text with
  | .day d => some d.iso
  | _ => none

/-- What is said of a text that is no date literal. -/
def invalidDate (text : String) : String :=
  String.join ["invalid date ", Text.quote text, "; use YYYY-MM-DD or M/D/YYYY"]

/-! ### Commands -/

/-- The text of the file of a path. -/
def readPath (s : Settings) (d : Disk) (path : String) : Except Disk.ReadError String :=
  match d.locate s.cwd (Path.ofText path) with
  | .error e => .error (.file e)
  | .ok l => d.readText l

/-- The ids that occur more than once, in the order of their first occurrence. -/
def repeatedIds (ids : List String) : List String :=
  ids.eraseDups.filter fun id => 1 < ids.count id

/-- The transactions of a statement are categorized and added to the ledger. -/
def importTransactions (s : Settings) (w : World) (reports : List Report)
    (incoming : List Transaction) : Outcome :=
  match s.store.loadDictionary w.disk with
  | .error e => w.unloaded reports e
  | .ok dictionary => match s.store.loadTransactions w.disk with
    | .error e => w.unloaded reports e
    | .ok ledger =>
      let reports := reports ++ s.loadedReports w ledger
      -- ids must be new among themselves before they are compared with the ledger's
      let ids := incoming.map Transaction.id
      match repeatedIds ids with
      | id :: more => w.refusedFor reports
          ("transaction ids repeated in the CSV: " ++ String.intercalate ", " (id :: more))
      | [] => match ids.filter (Ledger.hasId ledger) with
        | id :: more => w.refusedFor reports
            ("transaction ids already in the ledger: " ++ String.intercalate ", " (id :: more))
        | [] =>
          let found := incoming.map (categorize dictionary s.threshold)
          let records := incoming.flatMap (categorizeRecords dictionary s.threshold)
          s.saveLedger w
            (reports ++ logged (records ++ [Ledger.categorizedRecord found.length]))
            (ledger ++ found)
            (found.map (fun t => .out (assignmentLine t.id (t.category.getD "")))
              ++ pendingReports found)

/-- The statement at a path is added to the ledger. -/
def runImport (s : Settings) (w : World) (path : String) : Outcome :=
  let shown := (Path.ofText path).text
  match readPath s w.disk path with
  | .error (.file .notFound) => w.refusedFor [] s!"File not found: {shown}"
  | .error (.file e) => w.crashed [] (.file e)
  | .error (.undecodable _) => w.crashed [] .undecodable
  | .ok text => match Statement.load s.mint w.minted text with
    | (.error e, minted) =>
      let w := { w with minted }
      match e with
      | .rows (.csv e) => w.refusedFor [] s!"Failed to parse CSV: {e.message}"
      | .missingColumns names =>
        w.refusedFor [] s!"Failed to parse CSV: {Statement.missingColumnsMessage names}"
      | .rows (.integerTooLong _) => w.crashed [] .integerTooLong
      | .record (.integerTooLong _) => w.crashed [] .integerTooLong
      | .record (.misfit _) => w.crashed [] .amountTooLarge
    | (.ok incoming, minted) =>
      importTransactions s { w with minted }
        (logged [Statement.loadedRecord incoming.length shown]) incoming

/-- The transactions that satisfy a query are printed with their totals. -/
def runSearch (s : Settings) (w : World) (query : String) : Outcome :=
  match s.store.loadTransactions w.disk with
  | .error e => w.unloaded [] e
  | .ok ledger =>
    let reports := s.loadedReports w ledger ++ logged (Query.filterRecords s.today query ledger)
    match Ledger.search s.today ledger query with
    | .error e =>
      if e.isReported then w.refused reports s!"Filter error: {e.message}"
      else w.crashed reports .dateTooLong
    | .ok (found, totals) =>
      w.done (reports ++ found.map (fun t => .out (transactionLine t))
        ++ .out "" :: totalsReports totals)

/-- The totals of the ledger are printed. -/
def runSummary (s : Settings) (w : World) : Outcome :=
  match s.store.loadTransactions w.disk with
  | .error e => w.unloaded [] e
  | .ok ledger => w.done (s.loadedReports w ledger ++ totalsReports (Totals.ofTransactions ledger))

/-- A dictionary is saved, and the categories that are missing are looked for again.  The ledger is
loaded first, so that nothing is saved if it cannot be. -/
def saveDictionary (s : Settings) (w : World) (reports : List Report)
    (dictionary : CategoryDictionary) : Outcome :=
  match s.store.loadTransactions w.disk with
  | .error e => w.unloaded reports e
  | .ok ledger =>
    let reports := reports ++ s.loadedReports w ledger
    match s.store.saveDictionary w.disk dictionary with
    | (disk, some e) => { w with disk }.crashed reports (.file e)
    | (disk, none) =>
      let reports := reports ++ logged (s.store.savedDictionaryRecord dictionary.entries.length
        :: Ledger.recategorizeRecords ledger dictionary s.threshold)
      let (changed, count) := Ledger.recategorize ledger dictionary s.threshold
      if count = 0 then { w with disk }.done reports
      else s.saveLedger { w with disk } reports changed
        [.out s!"Categorized {count} previously uncategorized transaction(s)."]

/-- A category is added to the dictionary. -/
def runAddCategory (s : Settings) (w : World) (name : String) (keyword : Option String) :
    Outcome :=
  match s.store.loadDictionary w.disk with
  | .error e => w.unloaded [] e
  | .ok dictionary => match dictionary.addCategory name keyword with
    | .error e => w.refusedFor [] e.message
    | .ok changed =>
      saveDictionary s w (logged [CategoryDictionary.addedCategoryRecord name keyword]) changed

/-- A keyword is added to a category. -/
def runAddKeyword (s : Settings) (w : World) (category keyword : String) : Outcome :=
  match s.store.loadDictionary w.disk with
  | .error e => w.unloaded [] e
  | .ok dictionary => match dictionary.addKeyword category keyword with
    | .error (.unknownCategory _) => w.refusedFor [] (unknownCategory category)
    | .error e => w.refusedFor [] e.message
    | .ok changed =>
      saveDictionary s w (logged (dictionary.addedKeywordRecords category keyword)) changed

/-- A transaction is given a category of the dictionary by hand. -/
def runAssign (s : Settings) (w : World) (id category : String) : Outcome :=
  match s.store.loadDictionary w.disk with
  | .error e => w.unloaded [] e
  | .ok dictionary => match dictionary.find? category with
    | none => w.refusedFor [] s!"{unknownCategory category} (add it with 'add-category')"
    | some entry => match s.store.loadTransactions w.disk with
      | .error e => w.unloaded [] e
      | .ok ledger =>
        let reports := s.loadedReports w ledger
        match Ledger.assign ledger id entry.name with
        | none => w.refusedFor reports (unknownId id)
        | some changed => s.saveLedger w reports changed [.out (assignmentLine id entry.name)]

/-- A transaction is added to the ledger. -/
def runAdd (s : Settings) (w : World) (date description amount : String) : Outcome :=
  match isoDate? date with
  | none => w.refusedFor [] (invalidDate date)
  | some iso =>
    if Text.isBlank description then w.refusedFor [] "description cannot be empty"
    else match Amount.parse amount with
      | .error e => w.refusedFor [] e.message
      | .ok value => match s.store.loadTransactions w.disk with
        | .error e => w.unloaded [] e
        | .ok ledger =>
          let reports := s.loadedReports w ledger
          match s.store.loadDictionary w.disk with
          | .error e => w.unloaded reports e
          | .ok dictionary =>
            let record : Fields Value :=
              [("date", .text iso), ("description", .text description), ("amount", .float value)]
            match Ledger.add ledger record dictionary s.threshold s.mint w.minted with
            | (.error (.idTaken _), minted) => { w with minted }.crashed reports .idTaken
            | (.error (.record _), minted) => { w with minted }.crashed reports .amountTooLarge
            | (.ok (changed, added), minted) =>
              let records := (categorizeRecords dictionary s.threshold added)
                ++ [Ledger.addedRecord added]
              s.saveLedger { w with minted } (reports ++ logged records) changed
                (.out (transactionLine added) :: pendingReports [added])

/-- Fields of a transaction are changed. -/
def runEdit (s : Settings) (w : World) (id : String) (date description amount : Option String) :
    Outcome :=
  match s.store.loadTransactions w.disk with
  | .error e => w.unloaded [] e
  | .ok ledger =>
    let reports := s.loadedReports w ledger
    match s.store.loadDictionary w.disk with
    | .error e => w.unloaded reports e
    | .ok dictionary => match Ledger.find? ledger id with
      | none => w.refusedFor reports (unknownId id)
      | some current => match date.map fun text => (text, isoDate? text) with
        | some (text, none) => w.refusedFor reports (invalidDate text)
        | newDate => match amount.map Amount.parse with
          | some (.error e) => w.refusedFor reports e.message
          | newAmount =>
            let changed : Transaction :=
              { current with
                date := (newDate.bind Prod.snd).getD current.date
                description := (description.map Text.trim) <|> current.description
                amount := match newAmount with
                  | some (.ok x) => x
                  | _ => current.amount }
            match Ledger.update ledger changed dictionary s.threshold with
            | none => w.refusedFor reports (unknownId id)
            | some (changed, updated) =>
              s.saveLedger w
                (reports ++ logged (categorizeRecords dictionary s.threshold updated)) changed
                (.out (transactionLine updated) :: pendingReports [updated])

/-- A transaction is removed. -/
def runDelete (s : Settings) (w : World) (id : String) : Outcome :=
  match s.store.loadTransactions w.disk with
  | .error e => w.unloaded [] e
  | .ok ledger =>
    let reports := s.loadedReports w ledger
    match Ledger.delete ledger id with
    | none => w.refusedFor reports (unknownId id)
    | some changed => s.saveLedger w reports changed []

/-- The outcome of a command. -/
def Command.run (s : Settings) (w : World) : Command → Outcome
  | .importCsv path => runImport s w path
  | .search query => runSearch s w query
  | .summary => runSummary s w
  | .addCategory name keyword => runAddCategory s w name keyword
  | .addKeyword category keyword => runAddKeyword s w category keyword
  | .assign id category => runAssign s w id category
  | .add date description amount => runAdd s w date description amount
  | .edit id date description amount => runEdit s w id date description amount
  | .delete id => runDelete s w id

end SpendingLedger.CommandLine

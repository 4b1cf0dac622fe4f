import SpendingLedger.Proofs.CommandLine.Refusal
import SpendingLedger.Proofs.Statement.Load

/-!
# Importing a statement

A statement that is loaded is imported as a whole or not at all.  It is imported if its ids differ
from each other and from those of the ledger: then the ledger grows by all of its transactions, in
order, each with the category that is found for it.  Otherwise nothing changes.

A file that is no statement is refused with a complaint, in all cases but three: when it cannot be
decoded, when a cell holds an integer with too many digits, and when an amount is an integer that
no number of the format is nearest to, the import is cut short.

## Main definitions

* `BringsNewIds` — when a statement can be imported.
* `extendedLedger` — what it makes of a ledger.
* `IsUnreported` — the files that are not refused with a complaint.

## Main results

* `importTransactions_cases` — a loaded statement is saved or refused.
* `import_all_or_nothing` — **all of a statement is imported, or nothing.**
* `import_crashed_iff` — **the imports that are cut short.**
-/

namespace SpendingLedger.CommandLine

open Statement (keptRecords headerNames cells IsOverlong HasColumns HasHugeAmount)

/-! ### New ids -/

/-- Whether the ids of incoming transactions are new: they differ from each other, and a ledger has
none of them. -/
structure BringsNewIds (ledger : Ledger) (incoming : List Transaction) : Prop where
  distinct : (incoming.map Transaction.id).Nodup
  absent : ∀ t ∈ incoming, ∀ u ∈ ledger, u.id ≠ t.id

theorem repeatedIds_eq_nil_iff {ids : List String} : repeatedIds ids = [] ↔ ids.Nodup := by
  refine ⟨nodup_of_repeatedIds, fun h => List.filter_eq_nil_iff.2 fun id _ => ?_⟩
  have hcount : ids.count id ≤ 1 := List.nodup_iff_count.1 h id
  simpa using hcount

theorem filter_hasId_eq_nil_iff {ledger : Ledger} {incoming : List Transaction} :
    (incoming.map Transaction.id).filter ledger.hasId = [] ↔
      ∀ t ∈ incoming, ∀ u ∈ ledger, u.id ≠ t.id := by
  rw [List.filter_eq_nil_iff, List.forall_mem_map]
  simp only [Bool.not_eq_true, Ledger.hasId_eq_false_iff]

/-- A ledger with incoming transactions at its end, each under the category that is found for its
description. -/
def extendedLedger (s : Settings) (dictionary : CategoryDictionary) (ledger : Ledger)
    (incoming : List Transaction) : Ledger :=
  ledger ++ incoming.map fun t =>
    { t with category := some (resolve t.description dictionary s.threshold).category }

/-! ### Loaded statements -/

variable {s : Settings} {w : World} {ledger : Ledger} {dictionary : CategoryDictionary}
  {incoming : List Transaction}

/-- The transactions of a loaded statement are saved after those of the ledger, or the statement is
refused. -/
theorem importTransactions_cases (hledger : s.store.loadTransactions w.disk = .ok ledger)
    (hdictionary : s.store.loadDictionary w.disk = .ok dictionary) (reports : List Report)
    (incoming : List Transaction) :
    (BringsNewIds ledger incoming ∧ ∃ reports' rest,
      importTransactions s w reports incoming =
        s.saveLedger w reports' (extendedLedger s dictionary ledger incoming) rest) ∨
    (¬BringsNewIds ledger incoming ∧ ∃ reports' error,
      importTransactions s w reports incoming = w.refusedFor reports' error) := by
  unfold importTransactions
  rw [hdictionary]
  dsimp only
  rw [hledger]
  dsimp only
  split
  · next id more hrepeated =>
    refine Or.inr ⟨fun hnew => ?_, _, _, rfl⟩
    rw [repeatedIds_eq_nil_iff.2 hnew.distinct] at hrepeated
    cases hrepeated
  next hdistinct =>
  split
  · next id more htaken =>
    refine Or.inr ⟨fun hnew => ?_, _, _, rfl⟩
    rw [filter_hasId_eq_nil_iff.2 hnew.absent] at htaken
    cases htaken
  · next habsent =>
    have hnew : BringsNewIds ledger incoming :=
      ⟨repeatedIds_eq_nil_iff.1 hdistinct, filter_hasId_eq_nil_iff.1 habsent⟩
    exact Or.inl ⟨hnew, _, _, rfl⟩

/-- The import of loaded transactions is cut short exactly if their ids are new and the ledger is
not saved. -/
theorem importTransactions_crashed_iff (hledger : s.store.loadTransactions w.disk = .ok ledger)
    (hdictionary : s.store.loadDictionary w.disk = .ok dictionary) (reports : List Report)
    (incoming : List Transaction) {cause : Crash} :
    (importTransactions s w reports incoming).ending = .crashed cause ↔
      ∃ e, cause = .file e ∧ BringsNewIds ledger incoming ∧
        (s.store.saveTransactions w.disk (extendedLedger s dictionary ledger incoming)).2 =
          some e := by
  rcases importTransactions_cases hledger hdictionary reports incoming with
    ⟨hnew, reports', rest, heq⟩ | ⟨hold, reports', error, heq⟩
  · rw [heq, ending_saveLedger]
    cases (s.store.saveTransactions w.disk (extendedLedger s dictionary ledger incoming)).2 with
    | none =>
      refine iff_of_false (by rintro ⟨⟩) ?_
      rintro ⟨e, -, -, ⟨⟩⟩
    | some e =>
      constructor
      · intro hcause
        cases hcause
        exact ⟨e, rfl, hnew, rfl⟩
      · rintro ⟨e', rfl, -, he⟩
        cases he
        rfl
  · rw [heq]
    refine iff_of_false (by rintro ⟨⟩) ?_
    rintro ⟨e, -, hnew, -⟩
    exact hold hnew

/-- The import of a statement that is loaded goes on with its transactions. -/
theorem runImport_of_load {path text : String} {minted : Nat}
    (hread : readPath s w.disk path = .ok text)
    (hload : Statement.load s.mint w.minted text = (.ok incoming, minted)) :
    ∃ reports, runImport s w path =
      importTransactions s { w with minted } reports incoming := by
  unfold runImport
  dsimp only
  rw [hread]
  dsimp only
  rw [hload]
  exact ⟨_, rfl⟩

/-- **All of a statement is imported, or nothing.**  The import of a statement that is loaded ends
well exactly if its ids are new, and then the ledger is followed by all of its transactions. -/
theorem import_all_or_nothing {path text : String} {minted : Nat}
    (hread : readPath s w.disk path = .ok text)
    (hload : Statement.load s.mint w.minted text = (.ok incoming, minted))
    (hledger : s.store.loadTransactions w.disk = .ok ledger)
    (hdictionary : s.store.loadDictionary w.disk = .ok dictionary)
    (hsave : BringsNewIds ledger incoming → (s.store.saveTransactions w.disk
      (extendedLedger s dictionary ledger incoming)).2 = none) :
    let o := (Command.importCsv path).run s w
    (o.ending = .done ↔
      (incoming.map Transaction.id).Nodup ∧ ∀ t ∈ incoming, ∀ u ∈ ledger, u.id ≠ t.id) ∧
    (o.ending = .done →
      o.world.disk = (s.store.saveTransactions w.disk
        (extendedLedger s dictionary ledger incoming)).1 ∧
      o.world.disk.node? s.store.transactionsFile = some (.file (.text
        (Store.document (Shape.ofTransactions
          (extendedLedger s dictionary ledger incoming)))))) ∧
    (o.ending ≠ .done → o.ending = .refused ∧ o.world.disk = w.disk) := by
  intro o
  obtain ⟨reports, himport⟩ := runImport_of_load hread hload
  have ho : o = importTransactions s { w with minted } reports incoming := himport
  clear_value o
  subst ho
  rcases @importTransactions_cases s { w with minted } ledger dictionary hledger hdictionary
      reports incoming with ⟨hnew, reports', rest, heq⟩ | ⟨hold, reports', error, heq⟩
  · -- with new ids nothing but the saving is left, which the device accepts
    have hending : (importTransactions s { w with minted } reports incoming).ending = .done := by
      rw [heq, ending_saveLedger, hsave hnew]
    refine ⟨iff_of_true hending ⟨hnew.distinct, hnew.absent⟩, fun _ => ?_, fun hnot => ?_⟩
    · rw [heq, disk_saveLedger]
      refine ⟨rfl, ?_⟩
      rw [Store.saveTransactions, Disk.node?_replaceFile _ s.store.transactionsFile_ne_nil]
      exact if_pos (hsave hnew)
    · exact absurd hending hnot
  · rw [heq]
    refine ⟨iff_of_false (by rintro ⟨⟩) fun hnew => hold ⟨hnew.1, hnew.2⟩, ?_, fun _ => ⟨rfl, rfl⟩⟩
    rintro ⟨⟩

/-- A ledger that is in store. -/
def storedLedger : Ledger :=
  [{ id := "a", date := "2025-01-30", description := some "Tea room", amount := .ofRatio true 3 1
     category := some "Tea" }]

/-- A dictionary that is in store. -/
def storedDictionary : CategoryDictionary :=
  ⟨[⟨"Tea", ["kettle"]⟩, ⟨"Travel", ["rail", "bus"]⟩], (by decide : ["Tea", "Travel"].Nodup)⟩

/-- A statement of two rows, the second one with the id `id`. -/
def twoRows (id : String) : String :=
  String.join ["id,date,description,amount\nb,1/31/2025,Rail ticket,-12.50\n", id,
    ",2025-02-01,Bakery,\"$1,004\"\n"]

/-- The transactions of the two rows. -/
def rowsRead (id : String) : List Transaction :=
  [{ id := "b", date := "2025-01-31", description := some "Rail ticket"
     amount := .ofRatio true 25 2 },
    { id, date := "2025-02-01", description := some "Bakery", amount := .ofRatio false 1004 1 }]

/-- A world with this ledger and this dictionary in store, and with two statements, one of which has
an id of the ledger. -/
def statementsWorld : World where
  disk :=
    { entries := [(["data"], .directory),
        (plainSettings.store.transactionsFile, .file (.text (Store.document
          (Shape.ofTransactions storedLedger)))),
        (plainSettings.store.dictionaryFile, .file (.text (Store.document
          (Shape.ofDictionary storedDictionary)))),
        (["new.csv"], .file (.text (twoRows "c"))), (["old.csv"], .file (.text (twoRows "a")))] }
  minted := 0

/-- The rows of one statement follow the ledger in their order, one of them under the category whose
keyword it holds.  Nothing comes of the other statement. -/
theorem import_all_or_nothing_two_statements :
    let o := (Command.importCsv "new.csv").run plainSettings statementsWorld
    let o' := (Command.importCsv "old.csv").run plainSettings statementsWorld
    (o.ending = .done ∧
      o.world.disk.node? plainSettings.store.transactionsFile = some (.file (.text
        (Store.document (Shape.ofTransactions (storedLedger ++
          List.zipWith Transaction.withCategory (rowsRead "c") ["Travel", uncategorized])))))) ∧
      o'.ending = .refused ∧ o'.world.disk = statementsWorld.disk := by
  dsimp only
  have hledger : plainSettings.store.loadTransactions statementsWorld.disk = .ok storedLedger := by
    have hid : ∀ t ∈ storedLedger, Text.isBlank t.id = false := by decide
    rw [Store.loadTransactions_of_file hid rfl]
    decide +kernel
  have hdictionary : plainSettings.store.loadDictionary statementsWorld.disk =
      .ok storedDictionary := Store.loadDictionary_of_file rfl
  constructor
  · have hload : Statement.load plainSettings.mint 0 (twoRows "c") = (.ok (rowsRead "c"), 0) := by
      decide +kernel
    have hextended : extendedLedger plainSettings storedDictionary storedLedger (rowsRead "c") =
        storedLedger ++
          List.zipWith Transaction.withCategory (rowsRead "c") ["Travel", uncategorized] := by
      decide +kernel
    obtain ⟨hdone, hsaved, -⟩ := @import_all_or_nothing plainSettings statementsWorld storedLedger
      storedDictionary (rowsRead "c") "new.csv" (twoRows "c") 0 (by decide +kernel) hload hledger
      hdictionary fun _ => by decide +kernel
    have hending := hdone.2 ⟨by decide, by decide⟩
    refine ⟨hending, ?_⟩
    rw [← hextended]
    exact (hsaved hending).2
  · have hload : Statement.load plainSettings.mint 0 (twoRows "a") = (.ok (rowsRead "a"), 0) := by
      decide +kernel
    -- the second id is taken
    have htaken : ¬∀ t ∈ rowsRead "a", ∀ u ∈ storedLedger, u.id ≠ t.id := by decide
    obtain ⟨hdone, -, hnot⟩ := @import_all_or_nothing plainSettings statementsWorld storedLedger
      storedDictionary (rowsRead "a") "old.csv" (twoRows "a") 0 (by decide +kernel) hload hledger
      hdictionary fun hnew => absurd hnew.absent htaken
    exact hnot fun hending => htaken (hdone.1 hending).2

/-- A world with nothing in it but a statement. -/
def worldWith (content : Content) : World := ⟨{ entries := [(["in.csv"], .file content)] }, 0⟩

/-! ### Files that are no statement -/

/-- The text of a file that holds `raw`, as it is read. -/
def readLines (raw : String) : String := String.ofList (unifyLineEnds raw.toList)

/-- Whether the import of a file is cut short for what the file holds. -/
inductive IsUnreported (content : Content) : Crash → Prop
  | undecodable {e : Utf8.Error} (h : content.decode = .error e) :
    IsUnreported content .undecodable
  | integerTooLong {raw : String} (h : content.decode = .ok raw) {record : Csv.Record}
    (hrecord : record ∈ keptRecords (readLines raw)) {cs : List Char}
    (hcell : cs ∈ cells (headerNames (readLines raw)).length record) (hlong : IsOverlong cs) :
    IsUnreported content .integerTooLong
  | amountTooLarge {raw : String} (h : content.decode = .ok raw) {rs : List (Fields Value)}
    (hrows : Statement.rows (readLines raw) = .ok rs) (hcolumns : HasColumns rs)
    {r : Fields Value} (hr : r ∈ rs) (hhuge : HasHugeAmount r) :
    IsUnreported content .amountTooLarge

/-- Whether the transactions of a file could be imported, but the ledger cannot be saved. -/
def FailsToSave (s : Settings) (w : World) (content : Content) (ledger : Ledger)
    (dictionary : CategoryDictionary) (e : FileError) : Prop :=
  ∃ raw incoming minted, content.decode = .ok raw ∧
    Statement.load s.mint w.minted (readLines raw) = (.ok incoming, minted) ∧
    BringsNewIds ledger incoming ∧
    (s.store.saveTransactions w.disk (extendedLedger s dictionary ledger incoming)).2 = some e

/-- How the import of a statement that cannot be loaded ends. -/
def endingOfLoadError : Statement.LoadError → Ending
  | .rows (.csv _) => .refused
  | .missingColumns _ => .refused
  | .rows (.integerTooLong _) => .crashed .integerTooLong
  | .record (.integerTooLong _) => .crashed .integerTooLong
  | .record (.misfit _) => .crashed .amountTooLarge

theorem ending_runImport_of_load_error {path text : String} {minted : Nat}
    {e : Statement.LoadError} (hread : readPath s w.disk path = .ok text)
    (hload : Statement.load s.mint w.minted text = (.error e, minted)) :
    (runImport s w path).ending = endingOfLoadError e := by
  unfold runImport
  dsimp only
  rw [hread]
  dsimp only
  rw [hload]
  dsimp only
  unfold endingOfLoadError
  split <;> rfl

/-- The statements that cannot be loaded without being refused. -/
theorem isUnreported_iff {content : Content} {raw : String} (h : content.decode = .ok raw)
    (mint : Mint) (minted : Nat) {cause : Crash} :
    IsUnreported content cause ↔
      ∃ e, (Statement.load mint minted (readLines raw)).1 = .error e ∧
        endingOfLoadError e = .crashed cause := by
  constructor
  · intro hunreported
    cases hunreported with
    | undecodable h' => rw [h] at h'; cases h'
    | integerTooLong h' hrecord hcell hlong =>
      rw [h] at h'
      cases h'
      obtain ⟨e, he⟩ :=
        Statement.exists_rows_eq_integerTooLong_iff.2 ⟨_, hrecord, _, hcell, hlong⟩
      exact ⟨_, Statement.load_eq_rows_error_iff.2 he, rfl⟩
    | amountTooLarge h' hrows hcolumns hr hhuge =>
      rw [h] at h'
      cases h'
      exact ⟨_, Statement.load_eq_record_error_iff.2 ⟨rfl, _, hrows, hcolumns, _, hr, hhuge⟩, rfl⟩
  · rintro ⟨e, hload, hending⟩
    cases e with
    | missingColumns names => cases hending
    | rows e =>
      cases e with
      | csv e => cases hending
      | integerTooLong e =>
        cases hending
        obtain ⟨record, hrecord, cs, hcell, hlong⟩ :=
          Statement.exists_rows_eq_integerTooLong_iff.1
            ⟨e, Statement.load_eq_rows_error_iff.1 hload⟩
        exact .integerTooLong h hrecord hcell hlong
    | record e =>
      obtain ⟨rfl, rs, hrows, hcolumns, r, hr, hhuge⟩ := Statement.load_eq_record_error_iff.1 hload
      cases hending
      exact .amountTooLarge h hrows hcolumns hr hhuge

/-- A statement that is loaded is not saved only if its ids are new. -/
theorem failsToSave_iff {content : Content} {raw : String} (h : content.decode = .ok raw)
    {minted : Nat}
    (hload : Statement.load s.mint w.minted (readLines raw) = (.ok incoming, minted))
    {e : FileError} :
    FailsToSave s w content ledger dictionary e ↔
      BringsNewIds ledger incoming ∧
        (s.store.saveTransactions w.disk (extendedLedger s dictionary ledger incoming)).2 =
          some e := by
  constructor
  · rintro ⟨raw', incoming', minted', hraw, hload', hsave⟩
    rw [h] at hraw
    cases hraw
    rw [hload] at hload'
    cases hload'
    exact hsave
  · exact fun hsave => ⟨raw, incoming, minted, h, hload, hsave⟩

/-- What cannot be decoded or loaded is not saved. -/
theorem not_failsToSave {content : Content}
    (h : ∀ raw incoming minted, content.decode = .ok raw →
      Statement.load s.mint w.minted (readLines raw) ≠ (.ok incoming, minted)) (e : FileError) :
    ¬FailsToSave s w content ledger dictionary e := by
  rintro ⟨raw, incoming, minted, hraw, hload, -⟩
  exact h raw incoming minted hraw hload

theorem readPath_of_file {path : String} {l : Location} {content : Content}
    (hlocate : w.disk.locate s.cwd (Path.ofText path) = .ok l)
    (hfile : w.disk.node? l = some (.file content)) :
    readPath s w.disk path =
      match content.decode with
      | .error e => .error (.undecodable e)
      | .ok raw => .ok (readLines raw) := by
  unfold readPath Disk.readText
  rw [hlocate]
  dsimp only
  rw [hfile]
  rfl

/-- A file that cannot be decoded cuts its import short. -/
theorem runImport_undecodable_iff {path : String} {content : Content} {e : Utf8.Error}
    (h : content.decode = .error e) (hread : readPath s w.disk path = .error (.undecodable e))
    {cause : Crash} :
    (runImport s w path).ending = .crashed cause ↔ IsUnreported content cause := by
  have hending : (runImport s w path).ending = .crashed .undecodable := by
    unfold runImport
    dsimp only
    rw [hread]
    rfl
  rw [hending]
  constructor
  · intro hcause
    cases hcause
    exact .undecodable h
  · intro hunreported
    cases hunreported with
    | undecodable => rfl
    | integerTooLong h' => rw [h] at h'; cases h'
    | amountTooLarge h' => rw [h] at h'; cases h'

/-- The import of a file that is decoded is cut short because the file cannot be loaded, or because
the ledger is not saved. -/
theorem runImport_decoded_iff (hledger : s.store.loadTransactions w.disk = .ok ledger)
    (hdictionary : s.store.loadDictionary w.disk = .ok dictionary) {path : String}
    {content : Content} {raw : String} (h : content.decode = .ok raw)
    (hread : readPath s w.disk path = .ok (readLines raw)) {cause : Crash} :
    (runImport s w path).ending = .crashed cause ↔
      IsUnreported content cause ∨
        ∃ e, cause = .file e ∧ FailsToSave s w content ledger dictionary e := by
  rw [isUnreported_iff h s.mint w.minted]
  cases hload : Statement.load s.mint w.minted (readLines raw) with
  | mk found minted =>
    cases found with
    | error e =>
      rw [ending_runImport_of_load_error hread hload, or_iff_left]
      · constructor
        · exact fun hending => ⟨e, rfl, hending⟩
        · rintro ⟨e', he, hending⟩
          cases he
          exact hending
      · rintro ⟨e', -, hsave⟩
        refine not_failsToSave (fun raw' _ _ hraw hload' => ?_) e' hsave
        rw [h] at hraw
        cases hraw
        rw [hload] at hload'
        cases hload'
    | ok incoming =>
      obtain ⟨reports, himport⟩ := runImport_of_load hread hload
      -- ids may have been minted, but the files are those from before
      have hloads : s.store.loadTransactions (World.mk w.disk minted).disk = .ok ledger := hledger
      rw [himport, importTransactions_crashed_iff hloads hdictionary, or_iff_right]
      · simp only [failsToSave_iff h hload]
      · rintro ⟨e, ⟨⟩, -⟩

/-- **The imports that are cut short.**  The import of a file is cut short exactly if the file
cannot be decoded, holds an integer with too many digits or an amount that is too large, or if the
device does not save the ledger.  All else that keeps it from being imported is complained of. -/
theorem import_crashed_iff {path : String} {l : Location} {content : Content}
    (hlocate : w.disk.locate s.cwd (Path.ofText path) = .ok l)
    (hfile : w.disk.node? l = some (.file content))
    (hledger : s.store.loadTransactions w.disk = .ok ledger)
    (hdictionary : s.store.loadDictionary w.disk = .ok dictionary) :
    let o := (Command.importCsv path).run s w
    (∀ cause, o.ending = .crashed cause ↔
      IsUnreported content cause ∨
        ∃ e, cause = .file e ∧ FailsToSave s w content ledger dictionary e) ∧
    (o.ending = .refused →
      o.world.disk = w.disk ∧ ∃ before message, o.reports = before ++ [.err message]) := by
  intro o
  refine ⟨fun cause => ?_, refusesCleanly_runImport s w path⟩
  show (runImport s w path).ending = .crashed cause ↔ _
  have hread := readPath_of_file hlocate hfile
  cases hdecode : content.decode with
  | error e =>
    rw [hdecode] at hread
    rw [runImport_undecodable_iff hdecode hread, or_iff_left]
    rintro ⟨e', -, hsave⟩
    refine not_failsToSave (fun raw _ _ hraw => ?_) e' hsave
    rw [hdecode] at hraw
    cases hraw
  | ok raw =>
    rw [hdecode] at hread
    exact runImport_decoded_iff hledger hdictionary hdecode hread

/-- A file of one byte that begins no character. -/
theorem import_crashed_iff_undecodable :
    ((Command.importCsv "in.csv").run plainSettings (worldWith (.bytes [0xFF]))).ending =
      .crashed .undecodable := by
  have hdecode : ∃ e, (Content.bytes [0xFF]).decode = .error e := ⟨_, rfl⟩
  obtain ⟨e, he⟩ := hdecode
  obtain ⟨hcrashed, -⟩ := @import_crashed_iff plainSettings (worldWith (.bytes [0xFF])) [] .starter
    "in.csv" ["in.csv"] (.bytes [0xFF]) (by decide +kernel) (by decide +kernel)
    (by decide +kernel) rfl
  exact (hcrashed .undecodable).2 (Or.inl (.undecodable he))

/-- Not every file that is no statement is refused. -/
theorem not_reported_of_import :
    ¬∀ (s : Settings) (w : World) (path : String) (l : Location) (content : Content),
      w.disk.locate s.cwd (Path.ofText path) = .ok l → w.disk.node? l = some (.file content) →
      (∃ ledger, s.store.loadTransactions w.disk = .ok ledger) →
      (∃ dictionary, s.store.loadDictionary w.disk = .ok dictionary) →
      ((Command.importCsv path).run s w).ending = .done ∨
        ((Command.importCsv path).run s w).ending = .refused := by
  intro hreported
  have hending := hreported plainSettings (worldWith (.bytes [0xFF])) "in.csv" ["in.csv"]
    (.bytes [0xFF]) (by decide +kernel) (by decide +kernel) ⟨[], by decide +kernel⟩
    ⟨.starter, rfl⟩
  revert hending
  decide +kernel

end SpendingLedger.CommandLine

import SpendingLedger.Proofs.Store.Sound

/-!
# Commands that save

A command that is carried out ends by saving a ledger or a dictionary.  What it leaves on the disk
and how it ends are those of the saving alone, so each command is told once by what it saves.

## Main results

* `disk_saveLedger`, `ending_saveLedger` — what is left when a ledger was saved, or not.
* `loadTransactions_saveLedger` — **a ledger that was saved is loaded settled.**
* `exists_saveDictionary_eq` — after a dictionary, the ledger is saved if a category was found.
* `exists_run_add_eq`, `exists_run_assign_eq`, `exists_run_edit_eq` — commands that save a ledger.
* `run_addKeyword_eq` — a keyword is saved with the dictionary.
-/

namespace SpendingLedger.CommandLine

/-! ### Endings -/

namespace World

variable (w : World) (reports : List Report)

@[simp] theorem world_done : (w.done reports).world = w := rfl

@[simp] theorem world_refused (message : String) : (w.refused reports message).world = w := rfl

@[simp] theorem world_refusedFor (error : String) : (w.refusedFor reports error).world = w := rfl

@[simp] theorem world_crashed (cause : Crash) : (w.crashed reports cause).world = w := rfl

@[simp] theorem world_unloaded (e : Store.LoadError) : (w.unloaded reports e).world = w := by
  unfold unloaded
  split <;> rfl

end World

/-! ### Saving a ledger -/

theorem disk_saveLedger (s : Settings) (w : World) (reports rest : List Report) (ledger : Ledger) :
    (s.saveLedger w reports ledger rest).world.disk =
      (s.store.saveTransactions w.disk ledger).1 := by
  unfold Settings.saveLedger
  split
  · next disk e heq => rw [heq, World.world_crashed]
  · next disk heq => rw [heq, World.world_done]

theorem ending_saveLedger (s : Settings) (w : World) (reports rest : List Report)
    (ledger : Ledger) :
    (s.saveLedger w reports ledger rest).ending =
      match (s.store.saveTransactions w.disk ledger).2 with
      | none => .done
      | some e => .crashed (.file e) := by
  unfold Settings.saveLedger
  split
  · next disk e heq =>
    rw [heq]
    rfl
  · next disk heq =>
    rw [heq]
    rfl

/-- The file of the ledger after it was saved, or not. -/
theorem node?_saveLedger (s : Settings) (w : World) (reports rest : List Report)
    (ledger : Ledger) :
    (s.saveLedger w reports ledger rest).world.disk.node? s.store.transactionsFile =
      if (s.saveLedger w reports ledger rest).ending = .done then
        some (.file (.text (Store.document (Shape.ofTransactions ledger))))
      else w.disk.node? s.store.transactionsFile := by
  rw [disk_saveLedger, ending_saveLedger, Store.saveTransactions,
    Disk.node?_replaceFile _ s.store.transactionsFile_ne_nil]
  cases (w.disk.replaceFile s.store.transactionsFile _).2 with
  | none => rfl
  | some e => rfl

variable {s : Settings} {w : World} {ledger changed : Ledger} {dictionary : CategoryDictionary}

theorem ending_saveLedger_eq_done_iff {reports rest : List Report} :
    (s.saveLedger w reports ledger rest).ending = .done ↔
      (s.store.saveTransactions w.disk ledger).2 = none := by
  rw [ending_saveLedger]
  cases (s.store.saveTransactions w.disk ledger).2 with
  | none => exact iff_of_true rfl rfl
  | some e => exact iff_of_false nofun nofun

/-- A ledger that was saved is loaded settled. -/
theorem loadTransactions_saveLedger {reports rest : List Report}
    (hchanged : ∀ t ∈ changed, Text.isBlank t.id = false)
    (hsaved : (s.store.saveTransactions w.disk changed).2 = none) :
    s.store.loadTransactions (s.saveLedger w reports changed rest).world.disk =
      .ok (changed.map Transaction.settled) := by
  refine Store.loadTransactions_of_file hchanged ?_
  rw [node?_saveLedger, if_pos (ending_saveLedger_eq_done_iff.2 hsaved)]

/-! ### Commands on the ledger -/

/-- What a ledger takes under its date, description and amount is saved with it. -/
theorem exists_run_add_eq {date iso description amount : String} {value : Binary64}
    {added : Transaction} {minted : Nat} (hdate : isoDate? date = some iso)
    (hdescription : Text.isBlank description = false) (hamount : Amount.parse amount = .ok value)
    (hledger : s.store.loadTransactions w.disk = .ok ledger)
    (hdictionary : s.store.loadDictionary w.disk = .ok dictionary)
    (hchanged : ledger.add
      [("date", .text iso), ("description", .text description), ("amount", .float value)]
      dictionary s.threshold s.mint w.minted = (.ok (changed, added), minted)) :
    ∃ reports rest, (Command.add date description amount).run s w =
      s.saveLedger { w with minted } reports changed rest := by
  rw [Command.run, runAdd, hdate]
  dsimp only
  rw [hdescription, if_neg Bool.false_ne_true, hamount]
  dsimp only
  rw [hledger]
  dsimp only
  rw [hdictionary]
  dsimp only
  rw [hchanged]
  exact ⟨_, _, rfl⟩

theorem exists_run_assign_eq {id category : String} {entry : CategoryEntry}
    (hledger : s.store.loadTransactions w.disk = .ok ledger)
    (hdictionary : s.store.loadDictionary w.disk = .ok dictionary)
    (hentry : dictionary.find? category = some entry)
    (hchanged : ledger.assign id entry.name = some changed) :
    ∃ reports rest, (Command.assign id category).run s w =
      s.saveLedger w reports changed rest := by
  rw [Command.run, runAssign, hdictionary]
  dsimp only
  rw [hentry]
  dsimp only
  rw [hledger]
  dsimp only
  rw [hchanged]
  exact ⟨_, _, rfl⟩

theorem exists_run_edit_eq {id date iso : String} {current updated : Transaction}
    (hledger : s.store.loadTransactions w.disk = .ok ledger)
    (hdictionary : s.store.loadDictionary w.disk = .ok dictionary)
    (hcurrent : ledger.find? id = some current) (hdate : isoDate? date = some iso)
    (hchanged : ledger.update { current with date := iso } dictionary s.threshold =
      some (changed, updated)) :
    ∃ reports rest, (Command.edit id (some date) none none).run s w =
      s.saveLedger w reports changed rest := by
  rw [Command.run, runEdit, hledger]
  dsimp only
  rw [hdictionary]
  dsimp only
  rw [hcurrent]
  dsimp only [Option.map_none, Option.map_some]
  rw [hdate]
  -- what is not given stays as it is
  have hupdate : ledger.update { current with
      date := ((some (date, some iso)).bind Prod.snd).getD current.date
      description := none <|> current.description } dictionary s.threshold =
        some (changed, updated) := hchanged
  dsimp only at hupdate ⊢
  rw [hupdate]
  exact ⟨_, _, rfl⟩

/-! ### Commands on the dictionary -/

variable {extended : CategoryDictionary}

/-- A dictionary is saved, and the ledger after it if a category was found that was missing. -/
theorem exists_saveDictionary_eq {reports : List Report}
    (hledger : s.store.loadTransactions w.disk = .ok ledger)
    (hsaved : (s.store.saveDictionary w.disk extended).2 = none) :
    ∃ reports' rest, saveDictionary s w reports extended =
      if (ledger.recategorize extended s.threshold).2 = 0 then
        World.done { w with disk := (s.store.saveDictionary w.disk extended).1 } reports'
      else s.saveLedger { w with disk := (s.store.saveDictionary w.disk extended).1 } reports'
        (ledger.recategorize extended s.threshold).1 rest := by
  have hpair : s.store.saveDictionary w.disk extended =
      ((s.store.saveDictionary w.disk extended).1, none) := Prod.ext rfl hsaved
  rw [saveDictionary, hledger]
  dsimp only
  rw [hpair]
  exact ⟨_, _, rfl⟩

/-- A keyword that the dictionary takes is saved with it. -/
theorem run_addKeyword_eq {category keyword : String}
    (hdictionary : s.store.loadDictionary w.disk = .ok dictionary)
    (hextended : dictionary.addKeyword category keyword = .ok extended) :
    (Command.addKeyword category keyword).run s w =
      saveDictionary s w (logged (dictionary.addedKeywordRecords category keyword)) extended := by
  rw [Command.run, runAddKeyword, hdictionary]
  dsimp only
  rw [hextended]

/-! ### The settings of examples -/

/-- A store in one directory, under the threshold that is used unless another is given. -/
def plainSettings : Settings where
  store := ⟨["data"]⟩
  threshold := defaultNameThreshold
  cwd := []
  today := ⟨2024, 1, 2, by decide⟩
  mint := fun _ => "0123456789abcdef0123456789abcdef"

end SpendingLedger.CommandLine

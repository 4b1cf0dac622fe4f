import SpendingLedger.Proofs.CommandLine.Reachable

/-!
# Refused commands

A command is refused because of its arguments, because of what the files hold, or because of both
together.  All of that is looked at before the first file is written: a command that saves a
dictionary has loaded the ledger by then, and once something is written it ends well or is cut
short, but is not refused any more.  So a refused command leaves every file as it was.

## Main definitions

* `Outcome.RefusesCleanly` — a refusal, if it is one, leaves a disk as it is and complains.

## Main results

* `refusesCleanly_run` — every command refuses cleanly.
* `disk_eq_of_refused` — **a refused command changes nothing on the disk.**
-/

namespace SpendingLedger.CommandLine

/-- Whether an outcome, if it is a refusal, leaves the disk `d` as it is and has a complaint for its
last report. -/
def Outcome.RefusesCleanly (d : Disk) (o : Outcome) : Prop :=
  o.ending = .refused →
    o.world.disk = d ∧ ∃ before message, o.reports = before ++ [.err message]

/-! ### Endings -/

variable {d : Disk} {s : Settings} {w : World} {reports : List Report}

theorem refusesCleanly_done : (w.done reports).RefusesCleanly d := by
  intro h
  cases h

theorem refusesCleanly_crashed {cause : Crash} : (w.crashed reports cause).RefusesCleanly d := by
  intro h
  cases h

theorem refusesCleanly_refused {message : String} :
    (w.refused reports message).RefusesCleanly w.disk :=
  fun _ => ⟨rfl, reports, message, rfl⟩

theorem refusesCleanly_unloaded {e : Store.LoadError} :
    (w.unloaded reports e).RefusesCleanly w.disk := by
  unfold World.unloaded
  split
  · exact refusesCleanly_refused
  · exact refusesCleanly_crashed

/-- Whatever a ledger is saved over, that is no refusal any more. -/
theorem refusesCleanly_saveLedger {ledger : Ledger} {rest : List Report} :
    (s.saveLedger w reports ledger rest).RefusesCleanly d := by
  unfold Settings.saveLedger
  split
  · exact refusesCleanly_crashed
  · exact refusesCleanly_done

/-! ### Commands on the ledger -/

theorem refusesCleanly_importTransactions (s : Settings) (w : World) (reports : List Report)
    (incoming : List Transaction) :
    (importTransactions s w reports incoming).RefusesCleanly w.disk := by
  unfold importTransactions
  split
  · exact refusesCleanly_unloaded
  split
  · exact refusesCleanly_unloaded
  dsimp only
  split
  · exact refusesCleanly_refused
  split
  · exact refusesCleanly_refused
  · exact refusesCleanly_saveLedger

theorem refusesCleanly_runImport (s : Settings) (w : World) (path : String) :
    (runImport s w path).RefusesCleanly w.disk := by
  unfold runImport
  dsimp only
  split
  · exact refusesCleanly_refused
  · exact refusesCleanly_crashed
  · exact refusesCleanly_crashed
  split
  next e minted _ =>
    -- ids may have been minted for the rows before the faulty one, but nothing is written
    have hrefused {message : String} :
        ((World.mk w.disk minted).refused [] message).RefusesCleanly w.disk :=
      refusesCleanly_refused
    split
    · exact hrefused
    · exact hrefused
    · exact refusesCleanly_crashed
    · exact refusesCleanly_crashed
    · exact refusesCleanly_crashed
  next incoming minted _ =>
    exact refusesCleanly_importTransactions s (World.mk w.disk minted) _ incoming

theorem refusesCleanly_runAssign (s : Settings) (w : World) (id category : String) :
    (runAssign s w id category).RefusesCleanly w.disk := by
  unfold runAssign
  split
  · exact refusesCleanly_unloaded
  split
  · exact refusesCleanly_refused
  split
  · exact refusesCleanly_unloaded
  dsimp only
  split
  · exact refusesCleanly_refused
  · exact refusesCleanly_saveLedger

theorem refusesCleanly_runAdd (s : Settings) (w : World) (date description amount : String) :
    (runAdd s w date description amount).RefusesCleanly w.disk := by
  unfold runAdd
  split
  · exact refusesCleanly_refused
  split
  · exact refusesCleanly_refused
  split
  · exact refusesCleanly_refused
  split
  · exact refusesCleanly_unloaded
  dsimp only
  split
  · exact refusesCleanly_unloaded
  split
  · exact refusesCleanly_crashed
  · exact refusesCleanly_crashed
  · exact refusesCleanly_saveLedger

theorem refusesCleanly_runEdit (s : Settings) (w : World) (id : String)
    (date description amount : Option String) :
    (runEdit s w id date description amount).RefusesCleanly w.disk := by
  unfold runEdit
  split
  · exact refusesCleanly_unloaded
  dsimp only
  split
  · exact refusesCleanly_unloaded
  split
  · exact refusesCleanly_refused
  split
  · exact refusesCleanly_refused
  split
  · exact refusesCleanly_refused
  split
  · exact refusesCleanly_refused
  · exact refusesCleanly_saveLedger

theorem refusesCleanly_runDelete (s : Settings) (w : World) (id : String) :
    (runDelete s w id).RefusesCleanly w.disk := by
  unfold runDelete
  split
  · exact refusesCleanly_unloaded
  dsimp only
  split
  · exact refusesCleanly_refused
  · exact refusesCleanly_saveLedger

/-! ### Commands on the dictionary -/

/-- The ledger is loaded before the dictionary is saved, and afterwards nothing is refused. -/
theorem refusesCleanly_saveDictionary (s : Settings) (w : World) (reports : List Report)
    (dictionary : CategoryDictionary) :
    (saveDictionary s w reports dictionary).RefusesCleanly w.disk := by
  unfold saveDictionary
  split
  · exact refusesCleanly_unloaded
  dsimp only
  split
  · exact refusesCleanly_crashed
  split
  · exact refusesCleanly_done
  · exact refusesCleanly_saveLedger

theorem refusesCleanly_runAddCategory (s : Settings) (w : World) (name : String)
    (keyword : Option String) : (runAddCategory s w name keyword).RefusesCleanly w.disk := by
  unfold runAddCategory
  split
  · exact refusesCleanly_unloaded
  split
  · exact refusesCleanly_refused
  · exact refusesCleanly_saveDictionary s w _ _

theorem refusesCleanly_runAddKeyword (s : Settings) (w : World) (category keyword : String) :
    (runAddKeyword s w category keyword).RefusesCleanly w.disk := by
  unfold runAddKeyword
  split
  · exact refusesCleanly_unloaded
  split
  · exact refusesCleanly_refused
  · exact refusesCleanly_refused
  · exact refusesCleanly_saveDictionary s w _ _

/-! ### Commands that only look -/

theorem refusesCleanly_runSearch (s : Settings) (w : World) (query : String) :
    (runSearch s w query).RefusesCleanly w.disk := by
  unfold runSearch
  split
  · exact refusesCleanly_unloaded
  dsimp only
  split
  · split
    · exact refusesCleanly_refused
    · exact refusesCleanly_crashed
  · exact refusesCleanly_done

theorem refusesCleanly_runSummary (s : Settings) (w : World) :
    (runSummary s w).RefusesCleanly w.disk := by
  unfold runSummary
  split
  · exact refusesCleanly_unloaded
  · exact refusesCleanly_done

/-! ### All commands -/

theorem refusesCleanly_run (s : Settings) (w : World) (c : Command) :
    (c.run s w).RefusesCleanly w.disk := by
  cases c with
  | importCsv path => exact refusesCleanly_runImport s w path
  | search query => exact refusesCleanly_runSearch s w query
  | summary => exact refusesCleanly_runSummary s w
  | addCategory name keyword => exact refusesCleanly_runAddCategory s w name keyword
  | addKeyword category keyword => exact refusesCleanly_runAddKeyword s w category keyword
  | assign id category => exact refusesCleanly_runAssign s w id category
  | add date description amount => exact refusesCleanly_runAdd s w date description amount
  | edit id date description amount => exact refusesCleanly_runEdit s w id date description amount
  | delete id => exact refusesCleanly_runDelete s w id

/-- **A refused command changes nothing.**  Whatever the files hold and wherever they are missing,
the disk is the same after the refusal: both files of the store are what they were, and none is
created.  The last thing that is reported is a complaint. -/
theorem disk_eq_of_refused (s : Settings) (w : World) (c : Command)
    (h : (c.run s w).ending = .refused) :
    (c.run s w).world.disk = w.disk ∧
      ∃ before message, (c.run s w).reports = before ++ [.err message] :=
  refusesCleanly_run s w c h

/-- A keyword is added to a category while the ledger cannot be read. -/
theorem disk_eq_of_refused_addKeyword :
    let w : World := ⟨{ entries := [(["data"], .directory),
      (["data", "transactions.json"], .file (.text "not json"))] }, 0⟩
    let o := (Command.addKeyword "Gas" "mobil").run plainSettings w
    o.ending = .refused ∧ o.world.disk = w.disk ∧
      o.world.disk.node? plainSettings.store.dictionaryFile = none := by
  intro w o
  have hrefused : o.ending = .refused := by decide +kernel
  obtain ⟨hdisk, -⟩ := disk_eq_of_refused plainSettings w _ hrefused
  refine ⟨hrefused, hdisk, ?_⟩
  rw [hdisk]
  decide

end SpendingLedger.CommandLine

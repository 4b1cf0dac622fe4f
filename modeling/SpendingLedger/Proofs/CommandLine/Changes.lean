import SpendingLedger.Proofs.CommandLine.Import
import SpendingLedger.Proofs.Ledger.Lookup
import SpendingLedger.Proofs.Store.Clean

/-!
# What a command does to the stored ledger

A command leaves the file of the ledger as it is, or it ends well and has put the whole of a changed
ledger in its place, in one of six ways.  Whatever becomes of the dictionary and of everything else
on the disk, nothing more than this can happen to a transaction.

## Main definitions

* `Rewrites` — the changed ledger of each command.
* `Outcome.Follows` — the outcomes that leave a ledger as it is or rewrite it.

## Main results

* `follows_run` — **every command leaves the ledger as it is or rewrites it.**
-/

namespace SpendingLedger.CommandLine

/-- Whether a command adds something to the dictionary. -/
def Command.editsDictionary : Command → Bool
  | .addCategory .. | .addKeyword .. => true
  | _ => false

/-- Whether a command may end well without a change of the ledger: it only looks at it, or it finds
no category that is missing. -/
def Command.mayRest : Command → Bool
  | .search _ | .summary => true
  | c => c.editsDictionary

/-- The ledgers that a command puts in the place of the stored one. -/
inductive Rewrites (s : Settings) (d : Disk) (ledger : Ledger) : Command → Ledger → Prop
  | imported {path : String} {dictionary : CategoryDictionary} {incoming : List Transaction}
    (hdictionary : s.store.loadDictionary d = .ok dictionary)
    (hnew : BringsNewIds ledger incoming) (hclean : ∀ t ∈ incoming, t.IsClean) :
    Rewrites s d ledger (.importCsv path) (extendedLedger s dictionary ledger incoming)
  | added {date description amount : String} {dictionary : CategoryDictionary} {t : Transaction}
    (hdictionary : s.store.loadDictionary d = .ok dictionary)
    (hnew : ledger.hasId t.id = false) (hclean : t.IsClean) :
    Rewrites s d ledger (.add date description amount) (extendedLedger s dictionary ledger [t])
  | recategorized {c : Command} {dictionary : CategoryDictionary} (hc : c.editsDictionary = true) :
    Rewrites s d ledger c (ledger.recategorize dictionary s.threshold).1
  | assigned {id category : String} {dictionary : CategoryDictionary} {entry : CategoryEntry}
    {changed : Ledger} (hdictionary : s.store.loadDictionary d = .ok dictionary)
    (hentry : dictionary.find? category = some entry)
    (hchanged : ledger.assign id entry.name = some changed) :
    Rewrites s d ledger (.assign id category) changed
  | edited {id : String} {date description amount : Option String}
    {dictionary : CategoryDictionary} {updated : Transaction} {changed : Ledger}
    (hdictionary : s.store.loadDictionary d = .ok dictionary)
    (hchanged : (ledger.update updated dictionary s.threshold).map Prod.fst = some changed)
    (hid : updated.id = id) (hclean : updated.IsClean) :
    Rewrites s d ledger (.edit id date description amount) changed
  | deleted {id : String} {changed : Ledger} (hchanged : ledger.delete id = some changed) :
    Rewrites s d ledger (.delete id) changed

/-- Whether an outcome leaves the file of the ledger as it is or has a ledger in its place that the
command puts there. -/
inductive Outcome.Follows (o : Outcome) (s : Settings) (d : Disk) (c : Command) : Prop
  | same (hfile : o.world.disk.node? s.store.transactionsFile = d.node? s.store.transactionsFile)
    (hrest : o.ending = .done → c.mayRest = true)
  | rewritten {ledger changed : Ledger} (hload : s.store.loadTransactions d = .ok ledger)
    (hchange : Rewrites s d ledger c changed) (hdone : o.ending = .done)
    (hfile : o.world.disk.node? s.store.transactionsFile =
      some (.file (.text (Store.document (Shape.ofTransactions changed)))))

/-! ### Endings -/

variable {s : Settings} {w : World} {d : Disk} {c : Command} {reports : List Report}
  {ledger : Ledger} {dictionary : CategoryDictionary}

theorem follows_refused {message : String} : (w.refused reports message).Follows s w.disk c :=
  .same rfl fun h => by cases h

theorem follows_crashed {cause : Crash} : (w.crashed reports cause).Follows s w.disk c :=
  .same rfl fun h => by cases h

theorem follows_unloaded {e : Store.LoadError} : (w.unloaded reports e).Follows s w.disk c := by
  unfold World.unloaded
  split
  · exact follows_refused
  · exact follows_crashed

/-- A changed ledger that is saved takes the place of the old one, or the old one stays. -/
theorem follows_saveLedger (w : World)
    (hsame : w.disk.node? s.store.transactionsFile = d.node? s.store.transactionsFile)
    (hload : s.store.loadTransactions d = .ok ledger) {changed : Ledger}
    (hchange : Rewrites s d ledger c changed) (rest : List Report) :
    (s.saveLedger w reports changed rest).Follows s d c := by
  have hfile := node?_saveLedger s w reports rest changed
  by_cases hdone : (s.saveLedger w reports changed rest).ending = .done
  · rw [if_pos hdone] at hfile
    exact .rewritten hload hchange hdone hfile
  · rw [if_neg hdone, hsame] at hfile
    exact .same hfile fun h => absurd h hdone

/-! ### Commands on the ledger -/

/-- The ids that are minted for a statement do not matter to the files. -/
theorem follows_importTransactions {path : String} (minted : Nat) {incoming : List Transaction}
    (hclean : ∀ t ∈ incoming, t.IsClean) (reports : List Report) :
    (importTransactions s { w with minted } reports incoming).Follows s w.disk
      (.importCsv path) := by
  cases hdictionary : s.store.loadDictionary w.disk with
  | error e =>
    unfold importTransactions
    rw [hdictionary]
    exact follows_unloaded
  | ok dictionary =>
    cases hledger : s.store.loadTransactions w.disk with
    | error e =>
      unfold importTransactions
      rw [hdictionary]
      dsimp only
      rw [hledger]
      exact follows_unloaded
    | ok ledger =>
      rcases @importTransactions_cases s { w with minted } ledger dictionary hledger hdictionary
          reports incoming with ⟨hnew, reports', rest, heq⟩ | ⟨-, reports', error, heq⟩
      · rw [heq]
        exact follows_saveLedger { w with minted } rfl hledger (.imported hdictionary hnew hclean)
          rest
      · rw [heq]
        exact follows_refused

theorem follows_runImport (hmint : s.mint.IsHexadecimal) (path : String) :
    (runImport s w path).Follows s w.disk (.importCsv path) := by
  unfold runImport
  dsimp only
  split
  · exact follows_refused
  · exact follows_crashed
  · exact follows_crashed
  split
  · split
    · exact follows_refused
    · exact follows_refused
    · exact follows_crashed
    · exact follows_crashed
    · exact follows_crashed
  next incoming minted hload =>
  exact follows_importTransactions _ (Statement.isClean_of_load hmint hload) _

/-- A transaction that is added is clean, and its id is new. -/
theorem of_add {record : Fields Value} {mint : Mint} (hmint : mint.IsHexadecimal)
    {minted n : Nat} {changed : Ledger} {added : Transaction}
    (h : Ledger.add ledger record dictionary s.threshold mint minted = (.ok (changed, added), n)) :
    ∃ t : Transaction, t.IsClean ∧ ledger.hasId t.id = false ∧
      changed = extendedLedger s dictionary ledger [t] := by
  unfold Ledger.add at h
  split at h
  · cases h
  next t m htransaction =>
  split at h
  · cases h
  next htaken =>
  cases h
  exact ⟨t, Statement.isClean_of_transaction hmint htransaction, by simpa using htaken, rfl⟩

theorem follows_runAdd (hmint : s.mint.IsHexadecimal) (date description amount : String) :
    (runAdd s w date description amount).Follows s w.disk (.add date description amount) := by
  unfold runAdd
  split
  · exact follows_refused
  split
  · exact follows_refused
  split
  · exact follows_refused
  split
  · exact follows_unloaded
  next ledger hledger =>
  dsimp only
  split
  · exact follows_unloaded
  next dictionary hdictionary =>
  split
  · exact follows_crashed
  · exact follows_crashed
  next changed added minted hadd =>
  obtain ⟨t, hclean, hnew, rfl⟩ := of_add hmint hadd
  exact follows_saveLedger { w with minted } rfl hledger (.added hdictionary hnew hclean) _

theorem follows_runEdit (id : String) (date description amount : Option String) :
    (runEdit s w id date description amount).Follows s w.disk
      (.edit id date description amount) := by
  unfold runEdit
  split
  · exact follows_unloaded
  next ledger hledger =>
  dsimp only
  split
  · exact follows_unloaded
  next dictionary hdictionary =>
  split
  · exact follows_refused
  next current hcurrent =>
  split
  · exact follows_refused
  split
  · exact follows_refused
  split
  · exact follows_refused
  next changed updated hupdate =>
  -- the transaction that is edited was loaded, and an edit only trims its description
  have hclean := Store.isClean_of_load hledger _ (List.mem_of_find?_eq_some hcurrent)
  have hid : current.id = id := Ledger.id_of_find? hcurrent
  have hchanged := congrArg (Option.map Prod.fst) hupdate
  exact follows_saveLedger w rfl hledger
    (.edited hdictionary hchanged hid (isClean_edited hclean description _ _)) _

theorem follows_runAssign (id category : String) :
    (runAssign s w id category).Follows s w.disk (.assign id category) := by
  unfold runAssign
  split
  · exact follows_unloaded
  next dictionary hdictionary =>
  split
  · exact follows_refused
  next entry hentry =>
  split
  · exact follows_unloaded
  next ledger hledger =>
  dsimp only
  split
  · exact follows_refused
  next changed hassign =>
  exact follows_saveLedger w rfl hledger (.assigned hdictionary hentry hassign) _

theorem follows_runDelete (id : String) : (runDelete s w id).Follows s w.disk (.delete id) := by
  unfold runDelete
  split
  · exact follows_unloaded
  next ledger hledger =>
  dsimp only
  split
  · exact follows_refused
  next changed hdelete =>
  exact follows_saveLedger w rfl hledger (.deleted hdelete) _

/-! ### Commands on the dictionary -/

/-- The file of the ledger is not touched while the dictionary is saved. -/
theorem follows_saveDictionary (hc : c.editsDictionary = true) (reports : List Report)
    (dictionary : CategoryDictionary) :
    (saveDictionary s w reports dictionary).Follows s w.disk c := by
  have hrests : c.mayRest = true := by
    cases c <;> first | exact hc | cases hc
  have hsame : (s.store.saveDictionary w.disk dictionary).1.node? s.store.transactionsFile =
      w.disk.node? s.store.transactionsFile :=
    s.store.node?_saveDictionary w.disk dictionary (by decide) (by decide)
  unfold saveDictionary
  split
  · exact follows_unloaded
  next ledger hledger =>
  dsimp only
  -- the dictionary may be saved where the ledger then is not
  split
  · next disk e heq =>
    rw [heq] at hsame
    exact .same hsame fun h => by cases h
  next disk heq =>
  rw [heq] at hsame
  split
  · exact .same hsame fun _ => hrests
  · exact follows_saveLedger ⟨disk, w.minted⟩ hsame hledger (.recategorized hc) _

theorem follows_runAddCategory (name : String) (keyword : Option String) :
    (runAddCategory s w name keyword).Follows s w.disk (.addCategory name keyword) := by
  unfold runAddCategory
  split
  · exact follows_unloaded
  split
  · exact follows_refused
  · exact follows_saveDictionary rfl _ _

theorem follows_runAddKeyword (category keyword : String) :
    (runAddKeyword s w category keyword).Follows s w.disk (.addKeyword category keyword) := by
  unfold runAddKeyword
  split
  · exact follows_unloaded
  split
  · exact follows_refused
  · exact follows_refused
  · exact follows_saveDictionary rfl _ _

/-! ### All commands -/

/-- **Every command leaves the ledger as it is or rewrites it.** -/
theorem follows_run (hmint : s.mint.IsHexadecimal) (w : World) (c : Command) :
    (c.run s w).Follows s w.disk c := by
  cases c with
  | importCsv path =>
    rw [Command.run]
    exact follows_runImport hmint path
  | search query =>
    refine .same ?_ fun _ => rfl
    rw [Command.run, world_runSearch]
  | summary =>
    refine .same ?_ fun _ => rfl
    rw [Command.run, world_runSummary]
  | addCategory name keyword =>
    rw [Command.run]
    exact follows_runAddCategory name keyword
  | addKeyword category keyword =>
    rw [Command.run]
    exact follows_runAddKeyword category keyword
  | assign id category =>
    rw [Command.run]
    exact follows_runAssign id category
  | add date description amount =>
    rw [Command.run]
    exact follows_runAdd hmint date description amount
  | edit id date description amount =>
    rw [Command.run]
    exact follows_runEdit id date description amount
  | delete id =>
    rw [Command.run]
    exact follows_runDelete id

end SpendingLedger.CommandLine

import SpendingLedger.Proofs.CommandLine.Saving
import SpendingLedger.Proofs.Statement.Clean

/-!
# Reachable stores

Commands are carried out one after the other on one store, under one threshold, and files elsewhere
may change between them.  Beginning with a directory without files, the store is sound after each
command, however that command ends: both files can be loaded, ids differ, categories are those of
the dictionary, and no transaction waits for a category that the dictionary has.

## Main definitions

* `Reachable` — the worlds that commands lead to.

## Main results

* `isSound_run` — **every command keeps the store sound.**
* `hazards_run` — no command changes what the device does not do.
* `sound_of_reachable` — **the store is sound in every reachable world.**
-/

namespace SpendingLedger.CommandLine

variable {s : Settings} {w : World} {ledger : Ledger} {dictionary : CategoryDictionary}

/-! ### Saving a ledger -/

theorem hazards_saveTransactions (s : Store) (d : Disk) (ts : List Transaction) :
    (s.saveTransactions d ts).1.hazards = d.hazards :=
  Disk.hazards_replaceFile d s.transactionsFile_ne_nil _

/-- A sound and current ledger can be saved. -/
theorem isSound_saveLedger (hs : s.store.Fits) (h : s.store.Holds w.disk ledger dictionary)
    (hcurrent : w.disk.hazards = [] → ledger.IsCurrent dictionary s.threshold) {changed : Ledger}
    (hsound : changed.IsSound dictionary)
    (hcurrent' : w.disk.hazards = [] → changed.IsCurrent dictionary s.threshold)
    (reports rest : List Report) :
    s.store.IsSound s.threshold (s.saveLedger w reports changed rest).world.disk := by
  rw [disk_saveLedger]
  refine ⟨_, dictionary, h.saveTransactions hs hsound, ?_⟩
  rw [hazards_saveTransactions]
  intro hhazards
  split
  · exact Ledger.isCurrent_settled h.proper hsound (hcurrent' hhazards)
  · exact hcurrent hhazards

/-! ### Commands on the ledger -/

/-- Ids of which none is repeated differ. -/
theorem nodup_of_repeatedIds {ids : List String} (h : repeatedIds ids = []) : ids.Nodup := by
  refine List.nodup_iff_count.2 fun id => ?_
  by_cases hmem : id ∈ ids
  · have hnot := List.filter_eq_nil_iff.1 h id (List.mem_eraseDups.2 hmem)
    simpa using hnot
  · rw [List.count_eq_zero.2 hmem]
    exact Nat.zero_le 1

theorem isSound_importTransactions (hs : s.store.Fits) (h : s.store.IsSound s.threshold w.disk)
    {incoming : List Transaction} (hclean : ∀ t ∈ incoming, t.IsClean) (reports : List Report) :
    s.store.IsSound s.threshold (importTransactions s w reports incoming).world.disk := by
  obtain ⟨ledger, dictionary, hholds, hcurrent⟩ := id h
  unfold importTransactions
  rw [hholds.dictionary_loads]
  dsimp only
  rw [hholds.ledger_loads]
  dsimp only
  split
  · exact h
  next hrepeated =>
  split
  · exact h
  next htaken =>
  -- neither check refused the import, so its ids differ from each other and from the old ones
  have hnew : ∀ t ∈ incoming, ledger.hasId t.id = false := by
    intro t ht
    have hnot := List.filter_eq_nil_iff.1 htaken t.id (List.mem_map_of_mem ht)
    simpa using hnot
  exact isSound_saveLedger hs hholds hcurrent
    (Ledger.isSound_append hholds.sound hclean (nodup_of_repeatedIds hrepeated) hnew)
    (fun hhazards => Ledger.isCurrent_append (hcurrent hhazards) incoming) _ _

theorem isSound_runImport (hs : s.store.Fits) (hmint : s.mint.IsHexadecimal)
    (h : s.store.IsSound s.threshold w.disk) (path : String) :
    s.store.IsSound s.threshold (runImport s w path).world.disk := by
  unfold runImport
  dsimp only
  split
  · exact h
  · exact h
  · exact h
  split
  · split
    all_goals exact h
  next incoming minted hload =>
  have hminted : s.store.IsSound s.threshold (World.mk w.disk minted).disk := h
  exact isSound_importTransactions hs hminted (Statement.isClean_of_load hmint hload) _

/-- A transaction is added under an id that is new. -/
theorem isSound_add (hledger : ledger.IsSound dictionary) {record : Fields Value} {mint : Mint}
    (hmint : mint.IsHexadecimal) {threshold : Binary64} {minted n : Nat} {changed : Ledger}
    {added : Transaction}
    (h : Ledger.add ledger record dictionary threshold mint minted = (.ok (changed, added), n)) :
    changed.IsSound dictionary ∧
      (ledger.IsCurrent dictionary threshold → changed.IsCurrent dictionary threshold) := by
  unfold Ledger.add at h
  split at h
  · cases h
  next t m htransaction =>
  split at h
  · cases h
  next htaken =>
  cases h
  have hclean : ∀ u ∈ [t], u.IsClean := by
    intro u hu
    rw [List.mem_singleton.1 hu]
    exact Statement.isClean_of_transaction hmint htransaction
  have hnew : ∀ u ∈ [t], ledger.hasId u.id = false := by
    intro u hu
    rw [List.mem_singleton.1 hu]
    simpa using htaken
  have hnodup : ([t].map Transaction.id).Nodup :=
    List.nodup_cons.2 ⟨List.not_mem_nil, List.nodup_nil⟩
  exact ⟨Ledger.isSound_append hledger hclean hnodup hnew,
    fun hcurrent => Ledger.isCurrent_append hcurrent [t]⟩

theorem isSound_runAdd (hs : s.store.Fits) (hmint : s.mint.IsHexadecimal)
    (h : s.store.IsSound s.threshold w.disk) (date description amount : String) :
    s.store.IsSound s.threshold (runAdd s w date description amount).world.disk := by
  obtain ⟨ledger, dictionary, hholds, hcurrent⟩ := id h
  unfold runAdd
  split
  · exact h
  split
  · exact h
  split
  · exact h
  rw [hholds.ledger_loads]
  dsimp only
  rw [hholds.dictionary_loads]
  dsimp only
  split
  · exact h
  · exact h
  next changed added minted hadd =>
  obtain ⟨hsound, hkeeps⟩ := isSound_add hholds.sound hmint hadd
  have hminted : s.store.Holds (World.mk w.disk minted).disk ledger dictionary := hholds
  exact isSound_saveLedger hs hminted hcurrent hsound
    (fun hhazards => hkeeps (hcurrent hhazards)) _ _

/-- A changed transaction is categorized anew. -/
theorem isSound_update (hledger : ledger.IsSound dictionary) {threshold : Binary64}
    {updated : Transaction} (hclean : updated.IsClean) {changed : Ledger} {t : Transaction}
    (h : Ledger.update ledger updated dictionary threshold = some (changed, t)) :
    changed.IsSound dictionary ∧
      (ledger.IsCurrent dictionary threshold → changed.IsCurrent dictionary threshold) := by
  obtain ⟨found, hfound, heq⟩ := Option.map_eq_some_iff.1 h
  cases heq
  refine ⟨?_, fun hcurrent => ?_⟩
  · exact Ledger.isSound_modifyFirst hledger hfound (fun _ _ => rfl)
      fun _ _ _ => Transaction.isFiled_categorize hclean
  · exact Ledger.forall_of_modifyFirst hfound hcurrent
      fun _ _ _ => Transaction.isCurrent_categorize

/-- An edit keeps the id, and a new description is trimmed; date and amount are not looked at. -/
theorem isClean_edited {current : Transaction} (hclean : current.IsClean)
    (description : Option String) (date : String) (amount : Binary64) :
    Transaction.IsClean
      { current with
        date
        description := (description.map Text.trim) <|> current.description
        amount } := by
  refine ⟨hclean.id_not_blank, hclean.id_trimmed, ?_⟩
  cases description with
  | none => exact hclean.description_trimmed
  | some text => exact ⟨_, rfl, (Statement.trimmed_trim text).white⟩

theorem isSound_runEdit (hs : s.store.Fits) (h : s.store.IsSound s.threshold w.disk) (id : String)
    (date description amount : Option String) :
    s.store.IsSound s.threshold (runEdit s w id date description amount).world.disk := by
  obtain ⟨ledger, dictionary, hholds, hcurrent⟩ := h
  have h : s.store.IsSound s.threshold w.disk := ⟨ledger, dictionary, hholds, hcurrent⟩
  unfold runEdit
  rw [hholds.ledger_loads]
  dsimp only
  rw [hholds.dictionary_loads]
  dsimp only
  split
  · exact h
  next current hcurrentEntry =>
  have hclean : current.IsClean :=
    (hholds.sound.filed current (List.mem_of_find?_eq_some hcurrentEntry)).toIsClean
  split
  · exact h
  split
  · exact h
  split
  · exact h
  next changed updated hupdate =>
  obtain ⟨hsound, hkeeps⟩ :=
    isSound_update hholds.sound (isClean_edited hclean description _ _) hupdate
  exact isSound_saveLedger hs hholds hcurrent hsound (fun hhazards => hkeeps (hcurrent hhazards))
    _ _

theorem isSound_runAssign (hs : s.store.Fits) (h : s.store.IsSound s.threshold w.disk)
    (id category : String) :
    s.store.IsSound s.threshold (runAssign s w id category).world.disk := by
  obtain ⟨ledger, dictionary, hholds, hcurrent⟩ := h
  have h : s.store.IsSound s.threshold w.disk := ⟨ledger, dictionary, hholds, hcurrent⟩
  unfold runAssign
  rw [hholds.dictionary_loads]
  dsimp only
  split
  · exact h
  next entry hentry =>
  rw [hholds.ledger_loads]
  dsimp only
  split
  · exact h
  next changed hassign =>
  have hname := CategoryDictionary.name_mem_of_find? hentry
  have hreserved : entry.name ≠ uncategorized := (hholds.proper entry.name hname).2.1
  refine isSound_saveLedger hs hholds hcurrent ?_ (fun hhazards => ?_) _ _
  · exact Ledger.isSound_modifyFirst hholds.sound hassign (fun _ ht => ht) fun t ht _ =>
      Transaction.isFiled_withCategory (hholds.sound.filed t ht).toIsClean hname
  · exact Ledger.forall_of_modifyFirst hassign (hcurrent hhazards) fun _ _ _ =>
      Transaction.isCurrent_withCategory hreserved

theorem isSound_runDelete (hs : s.store.Fits) (h : s.store.IsSound s.threshold w.disk)
    (id : String) : s.store.IsSound s.threshold (runDelete s w id).world.disk := by
  obtain ⟨ledger, dictionary, hholds, hcurrent⟩ := h
  unfold runDelete
  rw [hholds.ledger_loads]
  dsimp only
  split
  · exact ⟨ledger, dictionary, hholds, hcurrent⟩
  next changed hdelete =>
  exact isSound_saveLedger hs hholds hcurrent (Ledger.isSound_delete hholds.sound hdelete)
    (fun hhazards => Ledger.isCurrent_delete (hcurrent hhazards) hdelete) _ _

/-! ### Commands on the dictionary -/

/-- A dictionary with the names of the old one is saved, and the ledger is made current. -/
theorem isSound_saveDictionary (hs : s.store.Fits) (hholds : s.store.Holds w.disk ledger dictionary)
    (hcurrent : w.disk.hazards = [] → ledger.IsCurrent dictionary s.threshold)
    {changed : CategoryDictionary} (hproper : changed.IsProper)
    (hnames : ∀ name ∈ dictionary.names, name ∈ changed.names) (reports : List Report) :
    s.store.IsSound s.threshold (saveDictionary s w reports changed).world.disk := by
  have hsave := hholds.saveDictionary hs hproper hnames
  have hhazards : (s.store.saveDictionary w.disk changed).1.hazards = w.disk.hazards :=
    Disk.hazards_replaceFile w.disk s.store.dictionaryFile_ne_nil _
  unfold saveDictionary
  rw [hholds.ledger_loads]
  dsimp only
  split
  · next disk e heq =>
    rw [heq, if_neg (by simp)] at hsave
    rw [heq] at hhazards
    refine ⟨ledger, dictionary, hsave, fun hnone => hcurrent ?_⟩
    rw [← hhazards]
    exact hnone
  next disk heq =>
  have hsaved : (s.store.saveDictionary w.disk changed).2 = none := by rw [heq]
  rw [if_pos hsaved] at hsave
  have hcan := fun hnone => hsave.canReplace hs hsaved hnone
  rw [heq] at hsave hhazards hcan
  split
  · -- nothing was found for any transaction, so the ledger is current as it is
    next hcount =>
    exact ⟨ledger, changed, hsave, fun _ => Ledger.isCurrent_of_recategorize_eq_zero hcount⟩
  · -- the old ledger need not be current for the new dictionary, so the new one must be saved
    rw [disk_saveLedger]
    have hsound := @Ledger.isSound_recategorize changed s.threshold ledger hsave.sound
    refine ⟨_, changed, hsave.saveTransactions hs hsound, fun hnone => ?_⟩
    rw [hazards_saveTransactions, hhazards] at hnone
    have hdone : (s.store.saveTransactions disk
        (Ledger.recategorize ledger changed s.threshold).1).2 = none :=
      Disk.replaceFile_of_canReplace s.store.transactionsFile_ne_nil (hcan hnone) _
    rw [if_pos hdone]
    exact Ledger.isCurrent_settled hproper hsound
      (Ledger.isCurrent_recategorize ledger changed s.threshold)

theorem isSound_runAddCategory (hs : s.store.Fits) (h : s.store.IsSound s.threshold w.disk)
    (name : String) (keyword : Option String) :
    s.store.IsSound s.threshold (runAddCategory s w name keyword).world.disk := by
  obtain ⟨ledger, dictionary, hholds, hcurrent⟩ := h
  unfold runAddCategory
  rw [hholds.dictionary_loads]
  dsimp only
  split
  · exact ⟨ledger, dictionary, hholds, hcurrent⟩
  next changed hadd =>
  have hnames := (CategoryDictionary.names_addCategory hadd).1
  refine isSound_saveDictionary hs hholds hcurrent
    (CategoryDictionary.isProper_addCategory hholds.proper hadd) (fun other hother => ?_) _
  rw [hnames]
  exact List.mem_append_left _ hother

theorem isSound_runAddKeyword (hs : s.store.Fits) (h : s.store.IsSound s.threshold w.disk)
    (category keyword : String) :
    s.store.IsSound s.threshold (runAddKeyword s w category keyword).world.disk := by
  obtain ⟨ledger, dictionary, hholds, hcurrent⟩ := h
  unfold runAddKeyword
  rw [hholds.dictionary_loads]
  dsimp only
  split
  · exact ⟨ledger, dictionary, hholds, hcurrent⟩
  · exact ⟨ledger, dictionary, hholds, hcurrent⟩
  next changed hadd =>
  refine isSound_saveDictionary hs hholds hcurrent
    (CategoryDictionary.isProper_addKeyword hholds.proper hadd) (fun other hother => ?_) _
  rw [CategoryDictionary.names_addKeyword hadd]
  exact hother

/-! ### Commands that only look -/

theorem world_runSearch (s : Settings) (w : World) (query : String) :
    (runSearch s w query).world = w := by
  unfold runSearch
  split
  · exact w.world_unloaded _ _
  dsimp only
  split
  · split <;> rfl
  · rfl

theorem world_runSummary (s : Settings) (w : World) : (runSummary s w).world = w := by
  unfold runSummary
  split
  · exact w.world_unloaded _ _
  · rfl

/-! ### What no command changes -/

@[simp] theorem hazards_saveLedger (s : Settings) (w : World) (reports rest : List Report)
    (ledger : Ledger) :
    (s.saveLedger w reports ledger rest).world.disk.hazards = w.disk.hazards := by
  rw [disk_saveLedger, hazards_saveTransactions]

@[simp] theorem hazards_saveDictionary (s : Settings) (w : World) (reports : List Report)
    (dictionary : CategoryDictionary) :
    (saveDictionary s w reports dictionary).world.disk.hazards = w.disk.hazards := by
  have hhazards : (s.store.saveDictionary w.disk dictionary).1.hazards = w.disk.hazards :=
    Disk.hazards_replaceFile w.disk s.store.dictionaryFile_ne_nil _
  unfold saveDictionary
  split
  · rw [World.world_unloaded]
  dsimp only
  split
  · next disk e heq =>
    rw [heq] at hhazards
    exact hhazards
  next disk heq =>
  rw [heq] at hhazards
  split
  · exact hhazards
  · rw [hazards_saveLedger]
    exact hhazards

/-- No command changes what the device does not do. -/
theorem hazards_run (s : Settings) (w : World) (c : Command) :
    (c.run s w).world.disk.hazards = w.disk.hazards := by
  cases c with
  | search query => rw [Command.run, world_runSearch]
  | summary => rw [Command.run, world_runSummary]
  | importCsv path =>
    rw [Command.run]
    unfold runImport importTransactions
    dsimp only
    repeat' split
    all_goals simp
  | addCategory name keyword =>
    rw [Command.run]
    unfold runAddCategory
    repeat' split
    all_goals simp
  | addKeyword category keyword =>
    rw [Command.run]
    unfold runAddKeyword
    repeat' split
    all_goals simp
  | assign id category =>
    rw [Command.run]
    unfold runAssign
    dsimp only
    repeat' split
    all_goals simp
  | add date description amount =>
    rw [Command.run]
    unfold runAdd
    dsimp only
    repeat' split
    all_goals simp
  | edit id date description amount =>
    rw [Command.run]
    unfold runEdit
    dsimp only
    repeat' split
    all_goals simp
  | delete id =>
    rw [Command.run]
    unfold runDelete
    dsimp only
    repeat' split
    all_goals simp

/-! ### Runs of commands -/

/-- Every command keeps the store sound. -/
theorem isSound_run (hs : s.store.Fits) (hmint : s.mint.IsHexadecimal)
    (h : s.store.IsSound s.threshold w.disk) (c : Command) :
    s.store.IsSound s.threshold (c.run s w).world.disk := by
  cases c with
  | importCsv path => exact isSound_runImport hs hmint h path
  | search query =>
    rw [Command.run, world_runSearch]
    exact h
  | summary =>
    rw [Command.run, world_runSummary]
    exact h
  | addCategory name keyword => exact isSound_runAddCategory hs h name keyword
  | addKeyword category keyword => exact isSound_runAddKeyword hs h category keyword
  | assign id category => exact isSound_runAssign hs h id category
  | add date description amount => exact isSound_runAdd hs hmint h date description amount
  | edit id date description amount => exact isSound_runEdit hs h id date description amount
  | delete id => exact isSound_runDelete hs h id

/-- The worlds that commands lead to from a directory without files.  Between two commands anything
may change but for the files of the store, their drafts and the hazards of the device. -/
inductive Reachable (store : Store) (threshold : Binary64) : World → Prop
  | start {w : World} (hempty : ∀ l ∈ storePlaces store, w.disk.node? l = none) :
    Reachable store threshold w
  | command {w : World} {s : Settings} (c : Command) (h : Reachable store threshold w)
    (hstore : s.store = store) (hthreshold : s.threshold = threshold)
    (hmint : s.mint.IsHexadecimal) : Reachable store threshold (c.run s w).world
  | elsewhere {w w' : World} (h : Reachable store threshold w)
    (hsame : ∀ l ∈ storePlaces store, w'.disk.node? l = w.disk.node? l)
    (hhazards : w'.disk.hazards = w.disk.hazards) : Reachable store threshold w'

variable {store : Store} {threshold : Binary64}

theorem isSound_of_reachable (hs : store.Fits) (h : Reachable store threshold w) :
    store.IsSound threshold w.disk := by
  induction h with
  | start hempty => exact Store.isSound_of_empty hs hempty
  | command c _ hstore hthreshold hmint ih =>
    subst hstore hthreshold
    exact isSound_run hs hmint ih c
  | elsewhere _ hsame hhazards ih => exact ih.congr hs hsame hhazards

/-- **In every reachable world the store is sound.**  Both files can be loaded, ids differ and are
not blank, and each category is a name of the dictionary or stands for none.  No category is found
for a transaction that has none, unless the device has hazards: where it refuses the ledger after a
dictionary, the old ledger stays. -/
theorem sound_of_reachable (hs : store.Fits) (h : Reachable store threshold w) :
    ∃ ledger dictionary,
      store.loadTransactions w.disk = .ok ledger ∧
      store.loadDictionary w.disk = .ok dictionary ∧
      (ledger.map Transaction.id).Nodup ∧
      (∀ t ∈ ledger, Text.isBlank t.id = false) ∧
      (∀ t ∈ ledger, ∃ c, t.category = some c ∧ (c = uncategorized ∨ c ∈ dictionary.names)) ∧
      (w.disk.hazards = [] → ∀ t ∈ ledger, t.category = some uncategorized →
        (resolve t.description dictionary threshold).category = uncategorized) := by
  obtain ⟨ledger, dictionary, hholds, hcurrent⟩ := isSound_of_reachable hs h
  exact ⟨ledger, dictionary, hholds.ledger_loads, hholds.dictionary_loads, hholds.sound.nodup,
    fun t ht => (hholds.sound.filed t ht).id_not_blank,
    fun t ht => (hholds.sound.filed t ht).category_known, hcurrent⟩

/-! ### A transaction that waits for its keyword -/

/-- A transaction with the description "Kettle". -/
def kettle (category : String) : Transaction :=
  ⟨plainSettings.mint 0, "2024-01-02", some "Kettle", .ofRatio true 7 2, some category⟩

/-- The first dictionary with one more keyword. -/
def kettleDictionary : CategoryDictionary :=
  ⟨[⟨"Gas", ["shell", "exxon", "chevron", "bp"]⟩,
    ⟨"Coffee", ["starbucks", "dunkin", "peets", "kettle"]⟩,
    ⟨"Groceries", ["whole foods", "trader joe", "aldi", "kroger"]⟩], by decide⟩

/-- The transaction is added where there are no files. -/
def kettleAdded : Outcome := (Command.add "1/2/2024" "Kettle" "-3.50").run plainSettings ⟨{}, 0⟩

/-- Then the keyword is added that it waits for. -/
def kettleFiled : Outcome :=
  (Command.addKeyword "Coffee" "kettle").run plainSettings kettleAdded.world

theorem fits_plainSettings : plainSettings.store.Fits := ⟨by decide, by decide⟩

theorem isHexadecimal_plainSettings : plainSettings.mint.IsHexadecimal := by
  intro n
  change "0123456789abcdef0123456789abcdef".toList.length = 32 ∧
    ∀ c ∈ "0123456789abcdef0123456789abcdef".toList, c ∈ "0123456789abcdef".toList
  simp

theorem not_isBlank_kettle (category : String) :
    ∀ t ∈ [kettle category], Text.isBlank t.id = false := by
  have hid : Text.isBlank (plainSettings.mint 0) = false := by decide
  exact List.forall_mem_singleton.2 hid

/-- No keyword of the first dictionary is in the description. -/
theorem loads_kettleAdded :
    kettleAdded.world.disk = (plainSettings.store.saveTransactions {} [kettle uncategorized]).1 ∧
      plainSettings.store.loadTransactions kettleAdded.world.disk = .ok [kettle uncategorized] ∧
      plainSettings.store.loadDictionary kettleAdded.world.disk = .ok .starter := by
  have hledger : plainSettings.store.loadTransactions {} = .ok [] :=
    Store.loadTransactions_of_none fits_plainSettings rfl
  have hdictionary : plainSettings.store.loadDictionary {} = .ok .starter :=
    Store.loadDictionary_of_none fits_plainSettings rfl
  have hchanged : Ledger.add []
      [("date", .text "2024-01-02"), ("description", .text "Kettle"),
        ("amount", .float (.ofRatio true 7 2))]
      .starter plainSettings.threshold plainSettings.mint 0 =
        (.ok ([kettle uncategorized], kettle uncategorized), 1) := by decide +kernel
  have hsaved : (plainSettings.store.saveTransactions {} [kettle uncategorized]).2 = none := by
    decide +kernel
  have hsettled : [kettle uncategorized].map Transaction.settled = [kettle uncategorized] := by
    decide +kernel
  have hdate : isoDate? "1/2/2024" = some "2024-01-02" := by decide +kernel
  have hdescription : Text.isBlank "Kettle" = false := by decide
  have hamount : Amount.parse "-3.50" = .ok (.ofRatio true 7 2) := by decide +kernel
  obtain ⟨reports, rest, heq⟩ := @exists_run_add_eq plainSettings ⟨{}, 0⟩ _ _ _ _ _ _ _ _ _ _
    hdate hdescription hamount hledger hdictionary hchanged
  rw [kettleAdded, heq, loadTransactions_saveLedger (not_isBlank_kettle _) hsaved, hsettled]
  refine ⟨disk_saveLedger _ _ _ _ _, rfl, ?_⟩
  refine Store.loadDictionary_of_none fits_plainSettings ?_
  rw [disk_saveLedger, Store.node?_dictionaryFile_saveTransactions]
  rfl

/-- The new keyword is in the description, so the transaction is filed under its category. -/
theorem loads_kettleFiled :
    plainSettings.store.loadTransactions kettleFiled.world.disk = .ok [kettle "Coffee"] := by
  obtain ⟨hdisk, hledger, hdictionary⟩ := loads_kettleAdded
  have hextended : CategoryDictionary.starter.addKeyword "Coffee" "kettle" =
      .ok kettleDictionary := by decide +kernel
  have hfound : Ledger.recategorize [kettle uncategorized] kettleDictionary
      plainSettings.threshold = ([kettle "Coffee"], 1) := by decide +kernel
  have hsaved : (plainSettings.store.saveDictionary kettleAdded.world.disk
      kettleDictionary).2 = none := by
    rw [hdisk]
    decide +kernel
  obtain ⟨reports, rest, heq⟩ := @exists_saveDictionary_eq plainSettings _ _ _
    (logged (CategoryDictionary.starter.addedKeywordRecords "Coffee" "kettle")) hledger hsaved
  rw [hfound, if_neg Nat.one_ne_zero] at heq
  have hsaved' : (plainSettings.store.saveTransactions
      (plainSettings.store.saveDictionary kettleAdded.world.disk kettleDictionary).1
      [kettle "Coffee"]).2 = none := by
    rw [hdisk]
    decide +kernel
  have hsettled : [kettle "Coffee"].map Transaction.settled = [kettle "Coffee"] := by
    decide +kernel
  rw [kettleFiled, run_addKeyword_eq hdictionary hextended, heq,
    loadTransactions_saveLedger (not_isBlank_kettle _) hsaved', hsettled]

/-- A transaction is added that no category is found for, and then the keyword that fills it in. -/
theorem sound_of_reachable_add_addKeyword :
    plainSettings.store.Fits ∧
      Reachable plainSettings.store plainSettings.threshold kettleAdded.world ∧
      Reachable plainSettings.store plainSettings.threshold kettleFiled.world ∧
      (∃ dictionary,
        plainSettings.store.loadTransactions kettleAdded.world.disk = .ok [kettle uncategorized] ∧
        plainSettings.store.loadDictionary kettleAdded.world.disk = .ok dictionary ∧
        (resolve (some "Kettle") dictionary plainSettings.threshold).category = uncategorized) ∧
      ∃ dictionary,
        plainSettings.store.loadTransactions kettleFiled.world.disk = .ok [kettle "Coffee"] ∧
        plainSettings.store.loadDictionary kettleFiled.world.disk = .ok dictionary ∧
        "Coffee" ∈ dictionary.names := by
  have hempty : ∀ l ∈ storePlaces plainSettings.store, (World.mk {} 0).disk.node? l = none := by
    decide
  have hadded : Reachable plainSettings.store plainSettings.threshold kettleAdded.world :=
    .command _ (.start hempty) rfl rfl isHexadecimal_plainSettings
  have hfiled : Reachable plainSettings.store plainSettings.threshold kettleFiled.world :=
    .command _ hadded rfl rfl isHexadecimal_plainSettings
  refine ⟨fits_plainSettings, hadded, hfiled, ?added, ?filed⟩
  case added =>
    obtain ⟨ledger, dictionary, hledger, hdictionary, -, -, -, hcurrent⟩ :=
      sound_of_reachable fits_plainSettings hadded
    have hsame : ledger = [kettle uncategorized] :=
      Except.ok.inj (hledger.symm.trans loads_kettleAdded.2.1)
    subst hsame
    have hhazards : kettleAdded.world.disk.hazards = [] := by rw [kettleAdded, hazards_run]
    have hopen := hcurrent hhazards (kettle uncategorized) List.mem_cons_self rfl
    exact ⟨dictionary, hledger, hdictionary, hopen⟩
  case filed =>
    obtain ⟨ledger, dictionary, hledger, hdictionary, -, -, hknown, -⟩ :=
      sound_of_reachable fits_plainSettings hfiled
    have hsame : ledger = [kettle "Coffee"] :=
      Except.ok.inj (hledger.symm.trans loads_kettleFiled)
    subst hsame
    obtain ⟨c, hc, hnamed⟩ := hknown _ List.mem_cons_self
    cases hc
    exact ⟨dictionary, hledger, hdictionary, hnamed.resolve_left (by decide)⟩

end SpendingLedger.CommandLine

import SpendingLedger.CommandLine.Run
import SpendingLedger.Proofs.Ledger.Sound
import SpendingLedger.Proofs.Store.Dictionary

/-!
# Sound stores

A store is sound when both of its files can be loaded, and the ledger is sound for the dictionary.
Saving a sound ledger keeps the store sound, whether it succeeds or fails, and so does saving a
dictionary with more names.  Where a dictionary was just saved, a ledger can be saved too, unless
the device has a hazard.

## Main definitions

* `Store.Fits` — the stores whose names and paths are not too long.
* `Store.Holds` — what is loaded from the files of a sound store.
* `Store.IsSound` — the sound stores, with current ledgers if the device has no hazards.

## Main results

* `Store.Holds.saveTransactions` — **a sound ledger can be saved in a sound store.**
* `Store.Holds.saveDictionary` — so can a dictionary with the names of the old one.
* `Store.Holds.canReplace` — after a dictionary a ledger can be saved.
-/

namespace SpendingLedger

namespace Location

theorem withEnding_child (l : Location) (name ending : String) :
    (l.child name).withEnding ending = l.child (name ++ ending) := by
  simp [child, withEnding]

theorem parent_child (l : Location) (name : String) : (l.child name).parent = l := by
  simp [child, parent]

theorem child_inj {l : Location} {a b : String} (h : l.child a = l.child b) : a = b :=
  List.singleton_inj.1 (List.append_cancel_left h)

end Location

namespace Disk

/-! ### Absent files -/

/-- Names that are not too long do not stop the way to a location. -/
theorem follow_ne_nameTooLong {d : Disk} {l : Location} {names : List String}
    (h : ∀ n ∈ names, isLongName n = false) : d.follow l names ≠ .error .nameTooLong := by
  induction names generalizing l with
  | nil => exact fun heq => by cases heq
  | cons n rest ih =>
    have hrest : ∀ m ∈ rest, isLongName m = false := fun m hm => h m (List.mem_cons_of_mem n hm)
    unfold follow
    split
    · rw [if_neg (by rw [h n List.mem_cons_self]; decide)]
      exact ih hrest
    · exact fun heq => by cases heq
    · exact fun heq => by cases heq

theorem absence_ne_nameTooLong {d : Disk} {l : Location} (hpath : isLongPath l.text = false)
    (hnames : ∀ n ∈ l, isLongName n = false) : d.absence l ≠ .nameTooLong := by
  unfold absence
  rw [if_neg (by rw [hpath]; decide)]
  split
  · next e heq =>
    rintro rfl
    exact follow_ne_nameTooLong hnames heq
  · exact fun heq => by cases heq

theorem exists?_eq {d : Disk} {l : Location} (hpath : isLongPath l.text = false)
    (hnames : ∀ n ∈ l, isLongName n = false) : d.exists? l = .ok (d.contains l) := by
  unfold exists?
  rw [if_neg (absence_ne_nameTooLong hpath hnames)]
  cases d.contains l <;> rfl

/-- Nothing is known to be where nothing is. -/
theorem exists?_ne_true {d : Disk} {l : Location} (h : d.node? l = none) :
    d.exists? l ≠ .ok true := by
  have habsent : d.contains l = false := by
    rw [contains, h]
    rfl
  unfold exists?
  rw [habsent, if_neg (by decide)]
  split <;> exact fun heq => by cases heq

theorem readText_congr {d d' : Disk} {l : Location} {n : Node} (h : d.node? l = some n)
    (h' : d'.node? l = some n) : d'.readText l = d.readText l := by
  unfold readText
  rw [h, h']
  cases n <;> rfl

end Disk

namespace Store

open CommandLine (storePlaces)

/-! ### Places -/

/-- The draft of the ledger. -/
def transactionsDraft (s : Store) : Location := s.transactionsFile.withEnding Disk.draftEnding

/-- Whether no name and no path of a store is too long. -/
structure Fits (s : Store) : Prop where
  shortNames : ∀ n ∈ s.root, isLongName n = false
  shortPaths : ∀ l ∈ storePlaces s, isLongPath l.text = false

variable {s : Store}

theorem transactionsDraft_eq (s : Store) :
    s.transactionsDraft = s.root.child "transactions.json.tmp" :=
  Location.withEnding_child _ _ _

/-- Different names in the directory of a store are different places. -/
theorem child_ne {a b : String} (h : a ≠ b) : s.root.child a ≠ s.root.child b :=
  fun heq => h (Location.child_inj heq)

/-- The files of a store are not above its directory. -/
theorem not_above (s : Store) (a b : String) : ¬s.root.child a <+: (s.root.child b).parent := by
  refine Location.not_isPrefix_parent ?_ (by simp [Location.child])
  simp [Location.child]

theorem mem_storePlaces (s : Store) : s.transactionsFile ∈ storePlaces s ∧
    s.transactionsDraft ∈ storePlaces s ∧ s.dictionaryFile ∈ storePlaces s := by
  simp [storePlaces, transactionsDraft]

/-- Nothing is known to be at a place of a store that is empty. -/
theorem Fits.exists?_of_none (hs : s.Fits) {d : Disk} {name : String}
    (hname : isLongName name = false) (hplace : s.root.child name ∈ storePlaces s)
    (h : d.node? (s.root.child name) = none) : d.exists? (s.root.child name) = .ok false := by
  have hnames : ∀ n ∈ s.root.child name, isLongName n = false := by
    intro n hn
    rcases List.mem_append.1 hn with hn | hn
    · exact hs.shortNames n hn
    · rw [List.mem_singleton.1 hn]
      exact hname
  rw [Disk.exists?_eq (hs.shortPaths _ hplace) hnames, Disk.contains, h]
  rfl

/-! ### Loading from the files alone -/

theorem loadTransactions_of_none (hs : s.Fits) {d : Disk} (h : d.node? s.transactionsFile = none) :
    s.loadTransactions d = .ok [] := by
  have hexists : d.exists? s.transactionsFile = .ok false :=
    hs.exists?_of_none (by decide) s.mem_storePlaces.1 h
  rw [loadTransactions, hexists]

theorem loadDictionary_of_none (hs : s.Fits) {d : Disk} (h : d.node? s.dictionaryFile = none) :
    s.loadDictionary d = .ok .starter := by
  have hexists : d.exists? s.dictionaryFile = .ok false :=
    hs.exists?_of_none (by decide) s.mem_storePlaces.2.2 h
  rw [loadDictionary, hexists]

theorem loadTransactions_of_some {d : Disk} {n : Node} (h : d.node? s.transactionsFile = some n) :
    s.loadTransactions d = readTransactions d s.transactionsFile := by
  rw [loadTransactions, exists?_of_node? h]

theorem loadDictionary_of_some {d : Disk} {n : Node} (h : d.node? s.dictionaryFile = some n) :
    s.loadDictionary d = readDictionary d s.dictionaryFile := by
  rw [loadDictionary, exists?_of_node? h]

theorem readValue_congr {d d' : Disk} {l : Location} {n : Node} (h : d.node? l = some n)
    (h' : d'.node? l = some n) : readValue d' l = readValue d l := by
  rw [readValue, readValue, Disk.readText_congr h h']

/-- A ledger is loaded from its file alone. -/
theorem loadTransactions_congr (hs : s.Fits) {d d' : Disk}
    (h : d'.node? s.transactionsFile = d.node? s.transactionsFile) :
    s.loadTransactions d' = s.loadTransactions d := by
  cases hn : d.node? s.transactionsFile with
  | none => rw [loadTransactions_of_none hs hn, loadTransactions_of_none hs (h.trans hn)]
  | some n =>
    rw [loadTransactions_of_some hn, loadTransactions_of_some (h.trans hn), readTransactions,
      readTransactions, readValue_congr hn (h.trans hn)]

/-- A dictionary is loaded from its file alone. -/
theorem loadDictionary_congr (hs : s.Fits) {d d' : Disk}
    (h : d'.node? s.dictionaryFile = d.node? s.dictionaryFile) :
    s.loadDictionary d' = s.loadDictionary d := by
  cases hn : d.node? s.dictionaryFile with
  | none => rw [loadDictionary_of_none hs hn, loadDictionary_of_none hs (h.trans hn)]
  | some n =>
    rw [loadDictionary_of_some hn, loadDictionary_of_some (h.trans hn), readDictionary,
      readDictionary, readValue_congr hn (h.trans hn)]

/-- No ledger is loaded from a directory. -/
theorem node?_ne_directory_of_load {d : Disk} {ledger : Ledger}
    (h : s.loadTransactions d = .ok ledger) : d.node? s.transactionsFile ≠ some .directory := by
  intro hdirectory
  rw [loadTransactions_of_some hdirectory, readTransactions, readValue, Disk.readText,
    hdirectory] at h
  cases h

/-! ### Sound stores -/

/-- What is loaded from the files of a sound store. -/
structure Holds (s : Store) (d : Disk) (ledger : Ledger) (dictionary : CategoryDictionary) :
    Prop where
  ledger_loads : s.loadTransactions d = .ok ledger
  dictionary_loads : s.loadDictionary d = .ok dictionary
  proper : dictionary.IsProper
  sound : ledger.IsSound dictionary
  draft_free : d.node? s.transactionsDraft ≠ some .directory

/-- Whether the files of a store hold a sound ledger, which is current if the device has no
hazards. -/
def IsSound (s : Store) (threshold : Binary64) (d : Disk) : Prop :=
  ∃ ledger dictionary, s.Holds d ledger dictionary ∧
    (d.hazards = [] → ledger.IsCurrent dictionary threshold)

variable {d : Disk} {ledger : Ledger} {dictionary : CategoryDictionary} {threshold : Binary64}

theorem Holds.congr (hs : s.Fits) (h : s.Holds d ledger dictionary) {d' : Disk}
    (hsame : ∀ l ∈ storePlaces s, d'.node? l = d.node? l) : s.Holds d' ledger dictionary where
  ledger_loads := by
    rw [loadTransactions_congr hs (hsame _ s.mem_storePlaces.1)]
    exact h.ledger_loads
  dictionary_loads := by
    rw [loadDictionary_congr hs (hsame _ s.mem_storePlaces.2.2)]
    exact h.dictionary_loads
  proper := h.proper
  sound := h.sound
  draft_free := by
    rw [hsame _ s.mem_storePlaces.2.1]
    exact h.draft_free

/-- What happens elsewhere on the disk does not matter. -/
theorem IsSound.congr (hs : s.Fits) (h : s.IsSound threshold d) {d' : Disk}
    (hsame : ∀ l ∈ storePlaces s, d'.node? l = d.node? l) (hhazards : d'.hazards = d.hazards) :
    s.IsSound threshold d' := by
  obtain ⟨ledger, dictionary, hholds, hcurrent⟩ := h
  rw [← hhazards] at hcurrent
  exact ⟨ledger, dictionary, hholds.congr hs hsame, hcurrent⟩

/-- A store without files is sound. -/
theorem isSound_of_empty (hs : s.Fits) (hempty : ∀ l ∈ storePlaces s, d.node? l = none) :
    s.IsSound threshold d := by
  obtain ⟨htransactions, hdraft, hdictionary⟩ := s.mem_storePlaces
  have hholds : s.Holds d [] .starter := {
    ledger_loads := loadTransactions_of_none hs (hempty _ htransactions)
    dictionary_loads := loadDictionary_of_none hs (hempty _ hdictionary)
    proper := CategoryDictionary.isProper_starter
    sound := Ledger.isSound_nil _
    draft_free := by
      rw [hempty _ hdraft]
      exact fun h => by cases h }
  exact ⟨[], .starter, hholds, fun _ => Ledger.isCurrent_nil _ threshold⟩

/-! ### Saving -/

theorem transactionsFile_ne_dictionaryFile (s : Store) : s.transactionsFile ≠ s.dictionaryFile :=
  child_ne (by decide)

/-- A ledger is saved without a trace in the file of the dictionary. -/
theorem node?_dictionaryFile_saveTransactions (s : Store) (d : Disk) (ts : List Transaction) :
    (s.saveTransactions d ts).1.node? s.dictionaryFile = d.node? s.dictionaryFile := by
  have hdraft : s.dictionaryFile ≠ s.transactionsDraft := by
    rw [transactionsDraft_eq]
    exact child_ne (by decide)
  rw [saveTransactions, Disk.node?_replaceFile_of_ne d s.transactionsFile_ne_nil _
    (Ne.symm s.transactionsFile_ne_dictionaryFile) hdraft]
  exact Disk.node?_withDirectory (s.not_above _ _)

/-- A dictionary is saved without a trace in the file of the ledger and in its draft. -/
theorem node?_saveDictionary (s : Store) (d : Disk) (dictionary : CategoryDictionary)
    {name : String} (hname : name ≠ "dictionary.json") (hdraft : name ≠ "dictionary.json.tmp") :
    (s.saveDictionary d dictionary).1.node? (s.root.child name) =
      d.node? (s.root.child name) := by
  have hplace : s.root.child name ≠ s.dictionaryFile.withEnding Disk.draftEnding := by
    rw [dictionaryFile, Location.withEnding_child]
    exact child_ne hdraft
  rw [saveDictionary, Disk.node?_replaceFile_of_ne d s.dictionaryFile_ne_nil _ (child_ne hname)
    hplace]
  exact Disk.node?_withDirectory (s.not_above _ _)

/-- A sound ledger can be saved in a sound store; the old one stays when that fails. -/
theorem Holds.saveTransactions (hs : s.Fits) (h : s.Holds d ledger dictionary) {changed : Ledger}
    (hchanged : changed.IsSound dictionary) :
    s.Holds (s.saveTransactions d changed).1
      (if (s.saveTransactions d changed).2 = none then List.map Transaction.settled changed
        else ledger) dictionary := by
  have hfile : (s.saveTransactions d changed).1.node? s.transactionsFile =
      if (s.saveTransactions d changed).2 = none then
        some (.file (.text (document (Shape.ofTransactions changed))))
      else d.node? s.transactionsFile :=
    Disk.node?_replaceFile d s.transactionsFile_ne_nil _
  have hdictionary : s.loadDictionary (s.saveTransactions d changed).1 = .ok dictionary := by
    rw [loadDictionary_congr hs (s.node?_dictionaryFile_saveTransactions d changed)]
    exact h.dictionary_loads
  have hdraft : (s.saveTransactions d changed).1.node? s.transactionsDraft ≠ some .directory :=
    Disk.node?_draft_replaceFile d s.transactionsFile_ne_nil _ h.draft_free
  by_cases hsaved : (s.saveTransactions d changed).2 = none
  · rw [if_pos hsaved]
    have hnode := hfile.trans (if_pos hsaved)
    have hblank : ∀ t ∈ changed, Text.isBlank t.id = false :=
      fun t ht => (hchanged.filed t ht).id_not_blank
    exact ⟨loadTransactions_of_file hblank hnode, hdictionary, h.proper,
      Ledger.isSound_settled h.proper hchanged, hdraft⟩
  · rw [if_neg hsaved]
    have hnode := hfile.trans (if_neg hsaved)
    have hloads : s.loadTransactions (s.saveTransactions d changed).1 = .ok ledger := by
      rw [loadTransactions_congr hs hnode]
      exact h.ledger_loads
    exact ⟨hloads, hdictionary, h.proper, h.sound, hdraft⟩

/-- A dictionary with the names of the old one can be saved; the old one stays when that fails. -/
theorem Holds.saveDictionary (hs : s.Fits) (h : s.Holds d ledger dictionary)
    {changed : CategoryDictionary} (hproper : changed.IsProper)
    (hnames : ∀ name ∈ dictionary.names, name ∈ changed.names) :
    s.Holds (s.saveDictionary d changed).1 ledger
      (if (s.saveDictionary d changed).2 = none then changed else dictionary) := by
  have hfile : (s.saveDictionary d changed).1.node? s.dictionaryFile =
      if (s.saveDictionary d changed).2 = none then
        some (.file (.text (document (Shape.ofDictionary changed))))
      else d.node? s.dictionaryFile :=
    Disk.node?_replaceFile d s.dictionaryFile_ne_nil _
  have hledger : s.loadTransactions (s.saveDictionary d changed).1 = .ok ledger := by
    rw [loadTransactions_congr hs (s.node?_saveDictionary d changed (by decide) (by decide))]
    exact h.ledger_loads
  have hdraft : (s.saveDictionary d changed).1.node? s.transactionsDraft ≠ some .directory := by
    have hfree := h.draft_free
    rw [transactionsDraft_eq] at hfree ⊢
    rw [s.node?_saveDictionary d changed (by decide) (by decide)]
    exact hfree
  by_cases hsaved : (s.saveDictionary d changed).2 = none
  · rw [if_pos hsaved]
    exact ⟨hledger, loadDictionary_of_file (hfile.trans (if_pos hsaved)), hproper,
      h.sound.mono hnames, hdraft⟩
  · rw [if_neg hsaved]
    have hloads : s.loadDictionary (s.saveDictionary d changed).1 = .ok dictionary := by
      rw [loadDictionary_congr hs (hfile.trans (if_neg hsaved))]
      exact h.dictionary_loads
    exact ⟨hledger, hloads, h.proper, h.sound, hdraft⟩

/-- Where a dictionary was saved, a ledger can be saved too, unless the device has a hazard. -/
theorem Holds.canReplace (hs : s.Fits) {changed : CategoryDictionary}
    (hsaved : (s.saveDictionary d changed).2 = none)
    (h : s.Holds (s.saveDictionary d changed).1 ledger dictionary) (hhazards : d.hazards = []) :
    (s.saveDictionary d changed).1.CanReplace s.transactionsFile := by
  have hdirectory := Disk.hasDirectory_of_replaceFile s.dictionaryFile_ne_nil hsaved
  rw [dictionaryFile, Location.parent_child] at hdirectory
  have hparent : s.transactionsFile.parent = s.root := Location.parent_child _ _
  refine ⟨?_, ?_, ?_, ?_, ?_, h.draft_free, node?_ne_directory_of_load h.ledger_loads⟩
  · rw [Store.saveDictionary, Disk.hazards_replaceFile d s.dictionaryFile_ne_nil, hhazards]
  · intro n hn
    rw [transactionsFile, Location.withEnding_child] at hn
    rcases List.mem_append.1 hn with hn | hn
    · exact hs.shortNames n hn
    · rw [List.mem_singleton.1 hn]
      decide
  · rw [hparent]
    exact hdirectory.short
  · exact hs.shortPaths _ s.mem_storePlaces.2.1
  · intro o ho c hfile
    rw [hparent] at ho
    have hthere := hdirectory.directory o ho
    rw [show (s.saveDictionary d changed).1.node? o = some .directory from hthere] at hfile
    cases hfile

end Store

end SpendingLedger

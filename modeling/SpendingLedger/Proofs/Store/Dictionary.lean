import SpendingLedger.Proofs.Store.Transactions

/-!
# Stored dictionaries

A dictionary is loaded exactly as it was saved, whatever its names and keywords hold: names and
keywords are not trimmed, and the order of categories and keywords is that of the file.

## Main results

* `Shape.dictionary_ofDictionary` — a dictionary's value is read as its entries.
* `Store.loadDictionary_of_file` — a stored dictionary is loaded as it is.
* `Store.loadDictionary_saveDictionary` — **a dictionary is loaded as it was saved.**
-/

namespace SpendingLedger

namespace Shape

theorem keywordsFrom_map_text (name : String) (place : Nat) (keywords : List String) :
    keywordsFrom name place (keywords.map .text) = .ok keywords := by
  induction keywords generalizing place with
  | nil => rfl
  | cons k ks ih =>
    rw [List.map_cons, keywordsFrom, ih]
    rfl

theorem entries_ofEntries (es : List CategoryEntry) :
    entries (es.map fun e => (e.name, .list (e.keywords.map .text))) = .ok es := by
  induction es with
  | nil => rfl
  | cons e es ih =>
    have hentry : entry e.name (.list (e.keywords.map .text)) = .ok e := by
      rw [entry, keywordsFrom_map_text]
      rfl
    rw [List.map_cons, entries, hentry, ih]

/-- A dictionary's value is read as its entries. -/
theorem dictionary_ofDictionary (d : CategoryDictionary) :
    dictionary (ofDictionary d) = .ok d.entries :=
  entries_ofEntries d.entries

/-- A stored dictionary can be read: its lists and objects are two deep, and its names differ. -/
theorem readable_ofDictionary (d : CategoryDictionary) :
    Json.Readable Json.greatestDepth (ofDictionary d) := by
  have hnames : (d.entries.map fun e => (e.name, Value.list (e.keywords.map .text))).map
      Prod.fst = d.names := by
    rw [List.map_map]
    rfl
  refine ⟨by decide, ?_, Json.readableFields_iff.2 fun f hf => ?_⟩
  · rw [hnames]
    exact d.nodup_names
  · obtain ⟨e, -, rfl⟩ := List.mem_map.1 hf
    refine ⟨by decide, Json.readableItems_iff.2 fun v hv => ?_⟩
    obtain ⟨k, -, rfl⟩ := List.mem_map.1 hv
    exact trivial

end Shape

namespace Store

theorem dictionaryFile_ne_nil (s : Store) : s.dictionaryFile ≠ [] := by
  simp [dictionaryFile, Location.child]

/-- A stored dictionary is loaded as it is. -/
theorem loadDictionary_of_file {s : Store} {d : Disk} {dictionary : CategoryDictionary}
    (hfile : d.node? s.dictionaryFile =
      some (.file (.text (document (Shape.ofDictionary dictionary))))) :
    s.loadDictionary d = .ok dictionary := by
  unfold loadDictionary
  rw [exists?_of_node? hfile]
  dsimp only
  rw [readDictionary, readValue_document (Shape.readable_ofDictionary dictionary) hfile]
  dsimp only
  rw [Shape.dictionary_ofDictionary]
  dsimp only
  rw [CategoryDictionary.ofEntries_entries]
  rfl

/-- A dictionary that was saved is loaded as it was, and it is saved wherever its file can be
replaced. -/
theorem loadDictionary_saveDictionary (s : Store) (d : Disk) (dictionary : CategoryDictionary) :
    (d.CanReplace s.dictionaryFile → (s.saveDictionary d dictionary).2 = none) ∧
      ((s.saveDictionary d dictionary).2 = none →
        s.loadDictionary (s.saveDictionary d dictionary).1 = .ok dictionary) := by
  have hne := s.dictionaryFile_ne_nil
  constructor
  · intro hcan
    exact Disk.replaceFile_of_canReplace hne hcan _
  · intro hsaved
    refine loadDictionary_of_file ?_
    rw [saveDictionary, Disk.node?_replaceFile d hne]
    exact if_pos hsaved

/-- Blank names, line ends and repeated keywords come back. -/
theorem loadDictionary_saveDictionary_of_blank_names :
    let dictionary : CategoryDictionary :=
      ⟨[⟨" ", ["", "a", "a"]⟩, ⟨"", []⟩, ⟨"Über\r\n", ["\"Σ\"", " b "]⟩], by decide⟩
    (Store.mk ["data"]).loadDictionary ((Store.mk ["data"]).saveDictionary {} dictionary).1 =
      .ok dictionary := by
  intro dictionary
  have hcan : Disk.CanReplace {} (Store.mk ["data"]).dictionaryFile :=
    Disk.canReplace_empty (by decide) (by decide) (by decide) (by decide)
  obtain ⟨hsaves, hloads⟩ := loadDictionary_saveDictionary ⟨["data"]⟩ {} dictionary
  exact hloads (hsaves hcan)

end Store

end SpendingLedger

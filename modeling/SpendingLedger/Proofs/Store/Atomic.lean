import SpendingLedger.Proofs.Disk.Tree
import SpendingLedger.Proofs.Store.Dictionary

/-!
# Saving as a whole

A ledger or a dictionary is saved by way of a draft beside its file, and the saving can fail at each
step: when the directory is made, when the draft is opened, while it is written and when it is moved
into place.  The file holds all of the new document after a success, and what it held before after a
failure.  A draft is moved or removed, also one that was left there earlier: if the directory cannot
be made, nothing stands in it.

## Main definitions

* `Disk.ReplacesWhole` — a file is replaced as a whole or not at all, and nothing else is changed.

## Main results

* `Disk.replacesWhole_replaceFile` — every replacement of a file is of this kind.
* `Store.replacesWhole_save` — **so is every saving of a ledger and of a dictionary.**
-/

namespace SpendingLedger

namespace Disk

/-- Whether the file at `l` is replaced by one of the given text or, for a failure, left as it is,
without a draft beside it, and nothing else is changed but for directories that are made on the
way. -/
structure ReplacesWhole (before : Disk) (l : Location) (text : String)
    (result : Disk × Option FileError) : Prop where
  /-- After a success the file is the new one, and the draft is gone. -/
  new : result.2 = none → result.1.node? l = some (.file (.text text)) ∧
    result.1.node? (l.withEnding draftEnding) = none
  /-- After a failure there is what was there, and no file for a draft. -/
  old : result.2 ≠ none → result.1.node? l = before.node? l ∧
    ∀ c, result.1.node? (l.withEnding draftEnding) ≠ some (.file c)
  elsewhere : ∀ o, o ≠ l → o ≠ l.withEnding draftEnding →
    result.1.node? o = before.node? o ∨
      (o <+: l.parent ∧ before.node? o = none ∧ result.1.node? o = some .directory)
  tree : result.1.IsTree
  succeeds : before.CanReplace l → result.2 = none

variable {d : Disk} {l : Location}

/-- Where there is a draft, its directory need not be made. -/
theorem node?_draft_of_makeDirectory (hd : d.IsTree) {e : FileError}
    (h : (d.makeDirectory l.parent).2 = some e) : d.node? (l.withEnding draftEnding) = none := by
  by_contra hdraft
  have hthere : d.contains (l.withEnding draftEnding) = true := Option.isSome_iff_ne_none.2 hdraft
  have hdirectory := hd.hasDirectory_parent (l.withEnding_ne_nil _) hthere
  rw [Location.parent_withEnding] at hdirectory
  rw [hdirectory.makeDirectory_eq] at h
  cases h

/-- Whatever becomes of a replacement, no file is left for a draft. -/
theorem node?_draft_replaceFile_ne_file (hd : d.IsTree) (hl : l ≠ []) (text : String)
    (c : Content) : (d.replaceFile l text).1.node? (l.withEnding draftEnding) ≠ some (.file c) := by
  have hdraft := l.withEnding_ne_nil draftEnding
  rcases replaceFile_cases d hl text with ⟨e, hmade, heq⟩ | ⟨e, heq⟩ | ⟨-, -, -, heq⟩
  · -- an old draft would have stood in a directory, which then need not be made
    rw [heq, node?_withDirectory (draft_not_isPrefix_parent hl),
      node?_draft_of_makeDirectory hd hmade]
    exact fun h => by cases h
  · rw [heq]
    exact node?_removeFile_self _ hdraft c
  · rw [heq, node?_set _ _ _ _ hl, if_neg (draft_ne hl), node?_erase _ _ _ hdraft, if_pos rfl]
    exact fun h => by cases h

/-- A draft that was moved into place is gone. -/
theorem node?_draft_replaceFile_of_eq_none (hl : l ≠ []) {text : String}
    (h : (d.replaceFile l text).2 = none) :
    (d.replaceFile l text).1.node? (l.withEnding draftEnding) = none := by
  rcases replaceFile_cases d hl text with ⟨e, -, heq⟩ | ⟨e, heq⟩ | ⟨-, -, -, heq⟩
  · rw [heq] at h
    cases h
  · rw [heq] at h
    cases h
  · rw [heq, node?_set _ _ _ _ hl, if_neg (draft_ne hl),
      node?_erase _ _ _ (l.withEnding_ne_nil _), if_pos rfl]

/-- Every replacement of a file is one as a whole or none at all. -/
theorem replacesWhole_replaceFile (hd : d.IsTree) (hl : l ≠ []) (text : String) :
    ReplacesWhole d l text (d.replaceFile l text) where
  new := by
    intro h
    rw [node?_replaceFile d hl, if_pos h]
    exact ⟨rfl, node?_draft_replaceFile_of_eq_none hl h⟩
  old := by
    intro h
    rw [node?_replaceFile d hl, if_neg h]
    exact ⟨rfl, node?_draft_replaceFile_ne_file hd hl text⟩
  elsewhere := by
    intro o hol hdraft
    rw [node?_replaceFile_of_ne d hl text hol hdraft]
    exact node?_makeDirectory d l.parent o
  tree := isTree_replaceFile hd hl text
  succeeds := fun h => replaceFile_of_canReplace hl h text

end Disk

namespace Store

/-- **Every saving is one as a whole or none at all.**  Wherever it fails, the file of the ledger
or the dictionary holds what it held before, no draft is left beside it, and nothing else on the
disk is changed but for the directories of the store. -/
theorem replacesWhole_save (s : Store) {d : Disk} (hd : d.IsTree) (ts : List Transaction)
    (dictionary : CategoryDictionary) :
    d.ReplacesWhole s.transactionsFile (document (Shape.ofTransactions ts))
        (s.saveTransactions d ts) ∧
      d.ReplacesWhole s.dictionaryFile (document (Shape.ofDictionary dictionary))
        (s.saveDictionary d dictionary) :=
  ⟨Disk.replacesWhole_replaceFile hd s.transactionsFile_ne_nil _,
    Disk.replacesWhole_replaceFile hd s.dictionaryFile_ne_nil _⟩

/-- The device has room for three characters, and an old draft is in the way. -/
theorem replacesWhole_save_interrupted :
    let s : Store := ⟨["data"]⟩
    let draft := s.transactionsFile.withEnding Disk.draftEnding
    let d : Disk :=
      { entries := [(["data"], .directory), (s.transactionsFile, .file (.text "[]\n")),
          (draft, .file (.text "[\n"))]
        hazards := [.writeFile draft 3] }
    let ts : List Transaction := [⟨"a", "2025-01-31", some "Shell", .zero, some "Gas"⟩]
    d.IsTree ∧ (s.saveTransactions d ts).2 = some .device ∧
      (s.saveTransactions d ts).1.node? s.transactionsFile = some (.file (.text "[]\n")) ∧
      ∀ c, (s.saveTransactions d ts).1.node? draft ≠ some (.file c) := by
  intro s draft d ts
  have hd : d.IsTree := by decide
  have hfailed : (s.saveTransactions d ts).2 = some .device := by decide
  have hnot : (s.saveTransactions d ts).2 ≠ none := by
    rw [hfailed]
    exact fun h => by cases h
  obtain ⟨hfile, hdraft⟩ := (replacesWhole_save s hd ts .starter).1.old hnot
  rw [hfile]
  exact ⟨hd, hfailed, by decide, hdraft⟩

end Store

end SpendingLedger

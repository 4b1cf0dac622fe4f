import SpendingLedger.Proofs.Ledger.Sound

/-!
# The transaction of an id

Each operation on a ledger tells what becomes of the first transaction with an id.  One that is
about another id does not touch it, and a new search for missing categories does not if it has a
category.

## Main results

* `Ledger.find?_modifyFirst`, `Ledger.find?_deleteFirst` — the changes of one transaction.
* `Ledger.find?_recategorize` — a new search for missing categories.
* `Ledger.find?_settled` — storing.
-/

namespace SpendingLedger.Ledger

variable {ledger changed : Ledger} {id other : String} {f : Transaction → Transaction}

theorem id_of_find? {t : Transaction} (h : ledger.find? id = some t) : t.id = id := by
  simpa using List.find?_some h

theorem find?_cons (t : Transaction) (rest : Ledger) :
    find? (t :: rest) id = if t.id = id then some t else find? rest id := by
  unfold find?
  by_cases h : t.id = id
  · rw [if_pos h, List.find?_cons_of_pos (by simpa using h)]
  · rw [if_neg h, List.find?_cons_of_neg (by simpa using h)]

/-- What is added at the end comes after what was there. -/
theorem find?_append_of_some {t : Transaction} (h : ledger.find? id = some t) (added : Ledger) :
    find? (ledger ++ added) id = some t := by
  unfold find? at h ⊢
  rw [List.find?_append, h, Option.some_or]

/-- A map that keeps ids finds what was found before, mapped. -/
theorem find?_map (hf : ∀ t ∈ ledger, (f t).id = t.id) :
    find? (ledger.map f) id = (ledger.find? id).map f := by
  induction ledger with
  | nil => rfl
  | cons t rest ih =>
    rw [List.map_cons, find?_cons, find?_cons, hf t List.mem_cons_self,
      ih fun u hu => hf u (List.mem_cons_of_mem t hu)]
    split <;> rfl

/-- The first transaction with an id is changed, and no other one. -/
theorem find?_modifyFirst (h : modifyFirst other f ledger = some changed)
    (hf : ∀ t, t.id = other → (f t).id = other) :
    changed.find? id = if id = other then (ledger.find? id).map f else ledger.find? id := by
  induction ledger generalizing changed with
  | nil => cases h
  | cons t rest ih =>
    unfold modifyFirst at h
    split at h
    · next ht =>
      -- what is changed keeps its id, so it is found where it was
      cases h
      rw [find?_cons, find?_cons, hf t ht, ht]
      by_cases hid : id = other
      · rw [if_pos hid.symm, if_pos hid, if_pos hid.symm]
        rfl
      · rw [if_neg (Ne.symm hid), if_neg hid, if_neg (Ne.symm hid)]
    · next ht =>
      obtain ⟨tail, htail, rfl⟩ := Option.map_eq_some_iff.1 h
      rw [find?_cons, find?_cons, ih htail]
      by_cases hid : id = other
      · subst hid
        rw [if_neg ht, if_neg ht]
      · simp only [if_neg hid]

/-- What is changed is there. -/
theorem exists_find?_of_modifyFirst (h : modifyFirst id f ledger = some changed) :
    ∃ t, ledger.find? id = some t := by
  induction ledger generalizing changed with
  | nil => cases h
  | cons t rest ih =>
    rw [find?_cons]
    split
    · exact ⟨t, rfl⟩
    · next ht =>
      rw [modifyFirst, if_neg ht] at h
      obtain ⟨tail, htail, -⟩ := Option.map_eq_some_iff.1 h
      exact ih htail

/-- The first transaction with another id is still the first one. -/
theorem find?_deleteFirst (h : deleteFirst other ledger = some changed) (hid : id ≠ other) :
    changed.find? id = ledger.find? id := by
  induction ledger generalizing changed with
  | nil => cases h
  | cons t rest ih =>
    unfold deleteFirst at h
    split at h
    · next ht =>
      cases h
      rw [find?_cons, if_neg (ht ▸ Ne.symm hid)]
    · obtain ⟨tail, htail, rfl⟩ := Option.map_eq_some_iff.1 h
      rw [find?_cons, find?_cons, ih htail]

/-- A transaction with a category is not looked at again. -/
theorem find?_recategorize {t : Transaction} (h : ledger.find? id = some t)
    (ht : t.isPending = false) (d : CategoryDictionary) (threshold : Binary64) :
    (ledger.recategorize d threshold).1.find? id = some t := by
  have hid : ∀ u ∈ ledger, (recategorizeOne d threshold u).id = u.id := by
    intro u _
    unfold recategorizeOne
    split <;> rfl
  show find? (ledger.map (recategorizeOne d threshold)) id = some t
  rw [find?_map hid, h, Option.map_some, recategorizeOne, if_neg (by rw [ht]; decide)]

/-- A clean ledger is loaded with its transactions under their ids. -/
theorem find?_settled (h : ∀ t ∈ ledger, t.IsClean) :
    find? (ledger.map Transaction.settled) id = (ledger.find? id).map Transaction.settled :=
  find?_map fun t ht => Transaction.id_settled (h t ht)

end SpendingLedger.Ledger

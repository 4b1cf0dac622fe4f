import SpendingLedger.Ledger
import SpendingLedger.Proofs.Category.Names
import SpendingLedger.Proofs.Store.Transactions

/-!
# Sound ledgers

A ledger is sound for a dictionary when its ids differ, its texts are as storing leaves them, and
each category is a name of the dictionary or the one that stands for none.  It is current when no
transaction without a category would be given one.  Every change of a ledger keeps both, and so does
storing it.

## Main definitions

* `Transaction.IsClean`, `Transaction.IsFiled` — what holds of a single transaction.
* `Transaction.IsCurrent` — a transaction without a category would not be given one.
* `Ledger.IsSound` — the sound ledgers of a dictionary.

## Main results

* `Ledger.isSound_settled` — **a sound ledger is loaded as a sound one.**
* `Ledger.isSound_append`, `Ledger.isSound_modifyFirst`, `Ledger.isSound_delete` — the changes.
* `Ledger.isSound_recategorize`, `Ledger.isCurrent_recategorize` — **a new search for missing
  categories makes a ledger current.**
-/

namespace SpendingLedger

open Text (Trimmed isWhite)

namespace Transaction

/-! ### Single transactions -/

/-- Whether the id is not blank and the id and the description are as storing leaves them. -/
structure IsClean (t : Transaction) : Prop where
  id_not_blank : Text.isBlank t.id = false
  id_trimmed : Trimmed isWhite t.id.toList
  description_trimmed : ∃ text, t.description = some text ∧ Trimmed isWhite text.toList

/-- Whether a clean transaction has a category that is a name of the dictionary or stands for
none. -/
structure IsFiled (d : CategoryDictionary) (t : Transaction) : Prop extends IsClean t where
  category_known : ∃ c, t.category = some c ∧ (c = uncategorized ∨ c ∈ d.names)

/-- Whether no category is found for a transaction that has none. -/
def IsCurrent (d : CategoryDictionary) (threshold : Binary64) (t : Transaction) : Prop :=
  t.category = some uncategorized → (resolve t.description d threshold).category = uncategorized

variable {d : CategoryDictionary} {threshold : Binary64} {t : Transaction}

theorem id_settled (h : t.IsClean) : t.settled.id = t.id :=
  Shape.trimWhite_of_trimmed h.id_trimmed

theorem description_settled (h : t.IsClean) : t.settled.description = t.description := by
  obtain ⟨text, htext, htrimmed⟩ := h.description_trimmed
  show some (Shape.trimWhite t.descriptionText) = t.description
  rw [descriptionText, htext, Option.getD_some, Shape.trimWhite_of_trimmed htrimmed]

/-- A known category is neither empty nor has it white space at its ends. -/
theorem category_settled (hd : d.IsProper) (h : t.IsFiled d) : t.settled.category = t.category := by
  obtain ⟨c, hc, hknown⟩ := h.category_known
  have hproper : c ≠ "" ∧ Trimmed isWhite c.toList := by
    rcases hknown with rfl | hmem
    · exact ⟨by decide, by decide⟩
    · exact ⟨(hd c hmem).1, (hd c hmem).2.2⟩
  show (t.category.bind fun c =>
    if Shape.trimWhite c = "" then none else some (Shape.trimWhite c)) = t.category
  rw [hc, Option.bind_some, Shape.trimWhite_of_trimmed hproper.2, if_neg hproper.1]

theorem isClean_settled (h : t.IsClean) : t.settled.IsClean where
  id_not_blank := by rw [id_settled h]; exact h.id_not_blank
  id_trimmed := by rw [id_settled h]; exact h.id_trimmed
  description_trimmed := by rw [description_settled h]; exact h.description_trimmed

theorem isFiled_settled (hd : d.IsProper) (h : t.IsFiled d) : t.settled.IsFiled d where
  toIsClean := isClean_settled h.toIsClean
  category_known := by rw [category_settled hd h]; exact h.category_known

theorem isCurrent_settled (hd : d.IsProper) (h : t.IsFiled d) (hcurrent : t.IsCurrent d threshold) :
    t.settled.IsCurrent d threshold := by
  unfold IsCurrent
  rw [category_settled hd h, description_settled h.toIsClean]
  exact hcurrent

theorem IsFiled.mono {d' : CategoryDictionary} (h : t.IsFiled d)
    (hnames : ∀ name ∈ d.names, name ∈ d'.names) : t.IsFiled d' where
  toIsClean := h.toIsClean
  category_known := by
    obtain ⟨c, hc, hknown⟩ := h.category_known
    exact ⟨c, hc, hknown.imp_right (hnames c)⟩

/-- A new category leaves the rest of a transaction as it is. -/
theorem isClean_withCategory (h : t.IsClean) (c : String) : (t.withCategory c).IsClean :=
  ⟨h.id_not_blank, h.id_trimmed, h.description_trimmed⟩

theorem isFiled_categorize (h : t.IsClean) : (categorize d threshold t).IsFiled d where
  toIsClean := isClean_withCategory h _
  category_known := ⟨_, rfl, category_resolve t.description d threshold⟩

/-- A category that was looked for is not found by looking again. -/
theorem isCurrent_categorize : (categorize d threshold t).IsCurrent d threshold :=
  fun h => Option.some.inj h

theorem isFiled_withCategory (h : t.IsClean) {c : String} (hc : c ∈ d.names) :
    (t.withCategory c).IsFiled d where
  toIsClean := isClean_withCategory h c
  category_known := ⟨c, rfl, Or.inr hc⟩

theorem isCurrent_withCategory {c : String} (hc : c ≠ uncategorized) :
    (t.withCategory c).IsCurrent d threshold :=
  fun h => absurd (Option.some.inj h) hc

end Transaction

namespace Ledger

/-! ### Ledgers -/

/-- Whether the ids of a ledger differ and each of its transactions is filed by the dictionary. -/
structure IsSound (d : CategoryDictionary) (ledger : Ledger) : Prop where
  nodup : (List.map Transaction.id ledger).Nodup
  filed : ∀ t ∈ ledger, t.IsFiled d

/-- Whether each transaction of a ledger is current. -/
def IsCurrent (d : CategoryDictionary) (threshold : Binary64) (ledger : Ledger) : Prop :=
  ∀ t ∈ ledger, t.IsCurrent d threshold

variable {d : CategoryDictionary} {threshold : Binary64} {ledger : Ledger}

theorem isSound_nil (d : CategoryDictionary) : IsSound d [] where
  nodup := List.nodup_nil
  filed := fun _ h => absurd h List.not_mem_nil

theorem isCurrent_nil (d : CategoryDictionary) (threshold : Binary64) :
    IsCurrent d threshold [] :=
  fun _ h => absurd h List.not_mem_nil

theorem IsSound.mono {d' : CategoryDictionary} (h : ledger.IsSound d)
    (hnames : ∀ name ∈ d.names, name ∈ d'.names) : ledger.IsSound d' where
  nodup := h.nodup
  filed := fun t ht => (h.filed t ht).mono hnames

/-- A map that keeps every id keeps the ids of a ledger. -/
theorem map_id_map {f : Transaction → Transaction} (hf : ∀ t ∈ ledger, (f t).id = t.id) :
    (List.map f ledger).map Transaction.id = List.map Transaction.id ledger := by
  rw [List.map_map]
  exact List.map_congr_left hf

/-- A sound ledger is loaded as a sound one. -/
theorem isSound_settled (hd : d.IsProper) (h : ledger.IsSound d) :
    IsSound d (List.map Transaction.settled ledger) where
  nodup := by
    rw [map_id_map fun t ht => Transaction.id_settled (h.filed t ht).toIsClean]
    exact h.nodup
  filed := by
    intro u hu
    obtain ⟨t, ht, rfl⟩ := List.mem_map.1 hu
    exact Transaction.isFiled_settled hd (h.filed t ht)

theorem isCurrent_settled (hd : d.IsProper) (h : ledger.IsSound d)
    (hcurrent : ledger.IsCurrent d threshold) :
    IsCurrent d threshold (List.map Transaction.settled ledger) := by
  intro u hu
  obtain ⟨t, ht, rfl⟩ := List.mem_map.1 hu
  exact Transaction.isCurrent_settled hd (h.filed t ht) (hcurrent t ht)

/-! ### Additions -/

theorem hasId_eq_false_iff {id : String} : ledger.hasId id = false ↔ ∀ t ∈ ledger, t.id ≠ id := by
  simp [hasId]

/-- Clean transactions with new ids are added under the categories of their descriptions. -/
theorem isSound_append (h : ledger.IsSound d) {incoming : List Transaction}
    (hclean : ∀ t ∈ incoming, t.IsClean) (hnodup : (incoming.map Transaction.id).Nodup)
    (hnew : ∀ t ∈ incoming, ledger.hasId t.id = false) :
    IsSound d (ledger ++ incoming.map (categorize d threshold)) where
  nodup := by
    have hids : (incoming.map (categorize d threshold)).map Transaction.id =
        incoming.map Transaction.id := by
      rw [List.map_map]
      rfl
    rw [List.map_append, hids, List.nodup_append]
    refine ⟨h.nodup, hnodup, fun a ha b hb hab => ?_⟩
    obtain ⟨t, ht, rfl⟩ := List.mem_map.1 ha
    obtain ⟨u, hu, rfl⟩ := List.mem_map.1 hb
    exact hasId_eq_false_iff.1 (hnew u hu) t ht hab
  filed := by
    intro t ht
    rcases List.mem_append.1 ht with ht | ht
    · exact h.filed t ht
    · obtain ⟨u, hu, rfl⟩ := List.mem_map.1 ht
      exact Transaction.isFiled_categorize (hclean u hu)

theorem isCurrent_append (h : ledger.IsCurrent d threshold) (incoming : List Transaction) :
    IsCurrent d threshold (ledger ++ incoming.map (categorize d threshold)) := by
  intro t ht
  rcases List.mem_append.1 ht with ht | ht
  · exact h t ht
  · obtain ⟨u, -, rfl⟩ := List.mem_map.1 ht
    exact Transaction.isCurrent_categorize

/-! ### Changes of one transaction -/

variable {id : String} {f : Transaction → Transaction} {changed : Ledger}

/-- What holds of all transactions and of the changed one holds of all after the change. -/
theorem forall_of_modifyFirst {P : Transaction → Prop} (h : modifyFirst id f ledger = some changed)
    (hledger : ∀ t ∈ ledger, P t) (hf : ∀ t ∈ ledger, t.id = id → P (f t)) :
    ∀ t ∈ changed, P t := by
  induction ledger generalizing changed with
  | nil => cases h
  | cons u ledger ih =>
    have hrest : ∀ t ∈ ledger, P t := fun t ht => hledger t (List.mem_cons_of_mem u ht)
    unfold modifyFirst at h
    split at h
    · next hid =>
      cases h
      intro t ht
      rcases List.mem_cons.1 ht with rfl | ht
      · exact hf u List.mem_cons_self hid
      · exact hrest t ht
    · obtain ⟨tail, htail, rfl⟩ := Option.map_eq_some_iff.1 h
      intro t ht
      rcases List.mem_cons.1 ht with rfl | ht
      · exact hledger t List.mem_cons_self
      · exact ih htail hrest (fun t ht => hf t (List.mem_cons_of_mem u ht)) t ht

theorem map_id_modifyFirst (h : modifyFirst id f ledger = some changed)
    (hf : ∀ t, t.id = id → (f t).id = id) :
    List.map Transaction.id changed = List.map Transaction.id ledger := by
  induction ledger generalizing changed with
  | nil => cases h
  | cons u ledger ih =>
    unfold modifyFirst at h
    split at h
    · next hid =>
      cases h
      rw [List.map_cons, List.map_cons, hf u hid, hid]
    · obtain ⟨tail, htail, rfl⟩ := Option.map_eq_some_iff.1 h
      rw [List.map_cons, List.map_cons, ih htail]

/-- A change of one transaction that keeps its id and leaves it filed keeps a ledger sound. -/
theorem isSound_modifyFirst (hledger : ledger.IsSound d)
    (h : modifyFirst id f ledger = some changed) (hid : ∀ t, t.id = id → (f t).id = id)
    (hf : ∀ t ∈ ledger, t.id = id → (f t).IsFiled d) : changed.IsSound d where
  nodup := by
    rw [map_id_modifyFirst h hid]
    exact hledger.nodup
  filed := forall_of_modifyFirst h hledger.filed hf

/-- What is left is a part of what was there. -/
theorem sublist_of_deleteFirst (h : deleteFirst id ledger = some changed) :
    List.Sublist changed ledger := by
  induction ledger generalizing changed with
  | nil => cases h
  | cons u ledger ih =>
    unfold deleteFirst at h
    split at h
    · cases h
      exact List.sublist_cons_self u ledger
    · obtain ⟨tail, htail, rfl⟩ := Option.map_eq_some_iff.1 h
      exact (ih htail).cons_cons u

theorem isSound_delete (hledger : ledger.IsSound d) (h : delete ledger id = some changed) :
    changed.IsSound d where
  nodup := List.Nodup.sublist ((sublist_of_deleteFirst h).map Transaction.id) hledger.nodup
  filed := fun t ht => hledger.filed t ((sublist_of_deleteFirst h).subset ht)

theorem isCurrent_delete (hledger : ledger.IsCurrent d threshold)
    (h : delete ledger id = some changed) : changed.IsCurrent d threshold :=
  fun t ht => hledger t ((sublist_of_deleteFirst h).subset ht)

/-! ### A new search for missing categories -/

theorem isPending_of_category {t : Transaction} (h : t.category = some uncategorized) :
    t.isPending = true := by
  rw [Transaction.isPending, h]
  decide

theorem isSound_recategorize (h : ledger.IsSound d) :
    (ledger.recategorize d threshold).1.IsSound d where
  nodup := by
    have hid : ∀ t ∈ ledger, (recategorizeOne d threshold t).id = t.id := by
      intro t _
      unfold recategorizeOne
      split <;> rfl
    show ((List.map (recategorizeOne d threshold) ledger).map Transaction.id).Nodup
    rw [map_id_map hid]
    exact h.nodup
  filed := by
    intro u hu
    obtain ⟨t, ht, rfl⟩ := List.mem_map.1 hu
    unfold recategorizeOne
    split
    · exact Transaction.isFiled_categorize (h.filed t ht).toIsClean
    · exact h.filed t ht

/-- A new search for missing categories makes a ledger current. -/
theorem isCurrent_recategorize (ledger : Ledger) (d : CategoryDictionary) (threshold : Binary64) :
    (ledger.recategorize d threshold).1.IsCurrent d threshold := by
  intro u hu
  obtain ⟨t, -, rfl⟩ := List.mem_map.1 hu
  unfold recategorizeOne
  split
  · exact Transaction.isCurrent_categorize
  · next hnot => exact fun h => absurd (isPending_of_category h) hnot

/-- A ledger in which the search finds nothing is current as it is. -/
theorem isCurrent_of_recategorize_eq_zero (h : (ledger.recategorize d threshold).2 = 0) :
    ledger.IsCurrent d threshold := by
  intro t ht hcategory
  have hnot : gainsCategory d threshold t ≠ true := List.countP_eq_zero.1 h t ht
  unfold gainsCategory at hnot
  rw [isPending_of_category hcategory, Bool.true_and, Ne, decide_eq_true_eq] at hnot
  exact Option.some.inj (Classical.not_not.1 hnot)

end Ledger

end SpendingLedger

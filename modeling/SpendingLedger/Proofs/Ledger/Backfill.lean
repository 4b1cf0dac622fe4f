import SpendingLedger.Proofs.Ledger.Register

/-!
# Missing categories filled in

A new search for missing categories fills in exactly what is missing.  It leaves each transaction
with a category as it is, and gives each one without the category of its description.  What was
filled in stays the same when it is searched for again, and nothing more is found then: a category
that is found is the one that stands for none, or it is a name of the dictionary and so not empty.

## Main definitions

* `Transaction.LacksCategory` — the three ways to have no category.

## Main results

* `Ledger.recategorizeOne_recategorizeOne` — a second search leaves what the first one found.
* `Ledger.recategorize_fills` — **a new search fills in what is missing, counts what it found, and
  finds nothing when it is repeated.**
-/

namespace SpendingLedger

variable {d : CategoryDictionary} {threshold : Binary64} {t u : Transaction} {ledger : Ledger}

namespace Transaction

/-- Whether a transaction has no category: it is null, empty, or the one that stands for none. -/
def LacksCategory (t : Transaction) : Prop :=
  t.category = none ∨ t.category = some "" ∨ t.category = some uncategorized

instance (t : Transaction) : Decidable t.LacksCategory :=
  inferInstanceAs (Decidable (_ ∨ _ ∨ _))

end Transaction

namespace Ledger

/-! ### Single transactions -/

/-- A transaction without a category gets that of its description. -/
theorem recategorizeOne_of_lacksCategory (h : t.LacksCategory) :
    recategorizeOne d threshold t =
      t.withCategory (resolve t.description d threshold).category :=
  if_pos (isPending_iff.2 h)

/-- A transaction with a category keeps it. -/
theorem recategorizeOne_of_not_lacksCategory (h : ¬ t.LacksCategory) :
    recategorizeOne d threshold t = t :=
  if_neg fun hpending => h (isPending_iff.1 hpending)

/-- A second search leaves what the first one found: the description is the same. -/
theorem recategorizeOne_recategorizeOne (d : CategoryDictionary) (threshold : Binary64)
    (t : Transaction) :
    recategorizeOne d threshold (recategorizeOne d threshold t) =
      recategorizeOne d threshold t := by
  by_cases h : t.LacksCategory
  · rw [recategorizeOne_of_lacksCategory h]
    by_cases hagain : (t.withCategory (resolve t.description d threshold).category).LacksCategory
    · rw [recategorizeOne_of_lacksCategory hagain]
      rfl
    · rw [recategorizeOne_of_not_lacksCategory hagain]
  · rw [recategorizeOne_of_not_lacksCategory h, recategorizeOne_of_not_lacksCategory h]

/-- A category is found for a transaction exactly when it had none and has one then. -/
theorem gainsCategory_iff :
    gainsCategory d threshold t = true ↔
      t.LacksCategory ∧ (recategorizeOne d threshold t).category ≠ some uncategorized := by
  unfold gainsCategory
  rw [Bool.and_eq_true, decide_eq_true_iff, isPending_iff]
  refine and_congr_right fun h => ?_
  rw [recategorizeOne_of_lacksCategory h]
  rfl

/-- No name is empty, so what a search leaves without a category has the one that stands for none,
and gets it again. -/
theorem not_gainsCategory_recategorizeOne (hnames : "" ∉ d.names) (t : Transaction) :
    ¬ gainsCategory d threshold (recategorizeOne d threshold t) = true := by
  rw [gainsCategory_iff, recategorizeOne_recategorizeOne]
  rintro ⟨hlacks, hfound⟩
  by_cases h : t.LacksCategory
  · rw [recategorizeOne_of_lacksCategory h] at hlacks hfound
    rcases hlacks with hnone | hempty | hnone
    · cases hnone
    · -- an empty category would be a name of the dictionary
      have hcategory := Option.some.inj hempty
      rcases category_resolve t.description d threshold with hnone | hmem
      · exact hfound (congrArg some hnone)
      · rw [hcategory] at hmem
        exact hnames hmem
    · exact hfound hnone
  · rw [recategorizeOne_of_not_lacksCategory h] at hlacks
    exact h hlacks

/-! ### Ledgers -/

theorem recategorize_eq (ledger : Ledger) (d : CategoryDictionary) (threshold : Binary64) :
    ledger.recategorize d threshold =
      (ledger.map (recategorizeOne d threshold), ledger.countP (gainsCategory d threshold)) :=
  rfl

/-- What is counted are the places where a category was missing and is not any more. -/
theorem countP_gainsCategory (ledger : Ledger) (d : CategoryDictionary) (threshold : Binary64) :
    ledger.countP (gainsCategory d threshold) =
      (ledger.zip (ledger.map (recategorizeOne d threshold))).countP fun places =>
        places.1.LacksCategory ∧ places.2.category ≠ some uncategorized := by
  induction ledger with
  | nil => rfl
  | cons t ledger ih =>
    rw [List.map_cons, List.zip_cons_cons, List.countP_cons, List.countP_cons, ih]
    simp only [gainsCategory_iff, decide_eq_true_iff]

/-- **A new search fills in exactly what is missing.**  At each place the transaction is the one
that was there if it has a category, and else that one with the category of its description.  The
places where a category was missing and was found are counted.  The same search once more changes
nothing and finds nothing. -/
theorem recategorize_fills (ledger : Ledger) (threshold : Binary64) (hnames : "" ∉ d.names) :
    (ledger.recategorize d threshold).1.length = ledger.length ∧
      (∀ (k : Nat) (t : Transaction), ledger[k]? = some t →
        (ledger.recategorize d threshold).1[k]? =
          some (if t.LacksCategory then
            { t with category := some (resolve t.description d threshold).category } else t)) ∧
      (ledger.recategorize d threshold).2 =
        (ledger.zip (ledger.recategorize d threshold).1).countP (fun places =>
          places.1.LacksCategory ∧ places.2.category ≠ some uncategorized) ∧
      recategorize (ledger.recategorize d threshold).1 d threshold =
        ((ledger.recategorize d threshold).1, 0) := by
  rw [recategorize_eq]
  refine ⟨List.length_map _, fun k t ht => ?_, countP_gainsCategory ledger d threshold, ?_⟩
  · rw [List.getElem?_map, ht, Option.map_some]
    split
    · next h => rw [recategorizeOne_of_lacksCategory h]; rfl
    · next h => rw [recategorizeOne_of_not_lacksCategory h]
  · rw [recategorize_eq, List.map_map]
    refine Prod.ext (List.map_congr_left fun t _ => ?_) (List.countP_eq_zero.2 fun u hu => ?_)
    · exact recategorizeOne_recategorizeOne d threshold t
    · obtain ⟨t, -, rfl⟩ := List.mem_map.1 hu
      exact not_gainsCategory_recategorizeOne hnames t

/-- Of four transactions two get a category, one is looked for in vain and one has its own. -/
theorem recategorize_fills_two_of_four :
    let ledger : Ledger := [⟨"1", "2025-01-31", some "Shell", .zero, none⟩,
      ⟨"2", "2025-01-31", some "Aldi", .zero, some ""⟩,
      ⟨"3", "2025-01-31", some "Oolong", .zero, some uncategorized⟩,
      ⟨"4", "2025-01-31", some "Shell", .zero, some "Travel"⟩]
    let filled := ledger.recategorize .starter defaultNameThreshold
    "" ∉ CategoryDictionary.starter.names ∧
      filled.1.map Transaction.category =
        [some "Gas", some "Groceries", some uncategorized, some "Travel"] ∧
      filled.2 = 2 ∧ recategorize filled.1 .starter defaultNameThreshold = (filled.1, 0) := by
  intro ledger filled
  have hnames : "" ∉ CategoryDictionary.starter.names := by decide
  obtain ⟨-, -, -, hagain⟩ := recategorize_fills ledger defaultNameThreshold hnames
  exact ⟨hnames, by decide +kernel, by decide +kernel, hagain⟩

end Ledger

end SpendingLedger

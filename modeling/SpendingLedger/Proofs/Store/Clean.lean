import SpendingLedger.Proofs.Json.Stability
import SpendingLedger.Proofs.Ledger.Sound

/-!
# Loaded ledgers are clean

Whatever a file of transactions holds, the transactions that are loaded from it have ids that are
not blank, and neither an id nor a description has white space at its ends.  An id that is no text
has a text, since what is read from a file has one.

## Main results

* `Shape.isClean_of_item` — the transaction of an item is clean.
* `Store.isClean_of_load` — **so are all transactions of a loaded ledger.**
-/

namespace SpendingLedger

open Text (Trimmed isWhite)

namespace Shape

/-! ### Texts of items -/

theorem trimmed_trimWhite (s : String) : Trimmed isWhite (trimWhite s).toList := by
  rw [trimWhite, String.toList_ofList]
  exact Text.trimmed_trimBy isWhite s.toList

/-- White space at the ends does not make a text blank. -/
theorem not_isBlank_trimWhite {s : String} (h : Text.isBlank s = false) :
    Text.isBlank (trimWhite s) = false := by
  obtain ⟨c, hc, hspace⟩ := List.all_eq_false.1 h
  refine Json.not_isBlank_of_mem (c := c) ?_ (by simpa using hspace)
  refine (Text.mem_trimBy_or hc).resolve_right fun hwhite => ?_
  exact hspace (Text.isSpace_of_isWhite hwhite)

/-- The id of an item is a text that is not blank, without the white space at its ends. -/
theorem exists_of_id {depth : Nat} {item : Fields Value} (hitem : Json.ReadableFields depth item)
    {i : String} (h : id item = .ok i) : ∃ s, Text.isBlank s = false ∧ i = trimWhite s := by
  unfold id at h
  split at h
  · cases h
  · cases h
  · next s hs =>
    split at h
    · cases h
    · next hblank =>
      cases h
      exact ⟨s, by simpa using hblank, rfl⟩
  · next v hnull htext hv =>
    -- an id that is neither missing nor a text
    cases h
    have hreadable : Json.Readable depth v :=
      Json.readableFields_iff.1 hitem _ (Fields.mem_of_get? hv)
    obtain ⟨s, hs, hblank⟩ := Json.exists_asText_of_readable hreadable htext
    refine ⟨s, hblank, ?_⟩
    rw [textOf, hs]
    rfl

theorem trimmed_optionalText (name : String) (item : Fields Value) :
    Trimmed isWhite (optionalText name item).toList := by
  unfold optionalText
  split
  · exact Text.trimmed_nil isWhite
  · exact Text.trimmed_nil isWhite
  · exact trimmed_trimWhite _

/-! ### Items -/

/-- The transaction of an item has the id and the description of the item. -/
theorem of_transaction {place : Nat} {amount : Binary64} {item : Fields Value} {t : Transaction}
    (h : transaction place amount item = .ok t) :
    id item = .ok t.id ∧ t.description = some (optionalText "description" item) := by
  unfold transaction at h
  dsimp only at h
  split at h
  · next i category hid _ =>
    cases h
    exact ⟨hid, rfl⟩
  · cases h
  · cases h
  · cases h

/-- The transaction of an item is clean. -/
theorem isClean_of_item {depth place : Nat} {v : Value} (hv : Json.Readable depth v)
    {t : Transaction} (h : item place v = .ok (.ok t)) : t.IsClean := by
  unfold item at h
  split at h
  · next fields =>
    obtain ⟨amount, -, hfound⟩ := Json.map_eq_ok h
    obtain ⟨hid, hdescription⟩ := of_transaction hfound
    obtain ⟨s, hblank, hs⟩ := exists_of_id hv.2.2 hid
    refine ⟨?_, ?_, _, hdescription, trimmed_optionalText _ _⟩
    · rw [hs]
      exact not_isBlank_trimWhite hblank
    · rw [hs]
      exact trimmed_trimWhite s
  · cases h

theorem combine_eq_ok {first : Except (List Finding) Transaction}
    {rest : Except (List Finding) (List Transaction)} {ts : List Transaction}
    (h : combine first rest = .ok ts) : ∃ u us, first = .ok u ∧ rest = .ok us ∧ ts = u :: us := by
  unfold combine at h
  split at h
  · next u us =>
    cases h
    exact ⟨u, us, rfl, rfl, rfl⟩
  · cases h
  · cases h
  · cases h

theorem isClean_of_itemsFrom {depth place : Nat} {vs : List Value}
    (hvs : Json.ReadableItems depth vs) {ts : List Transaction}
    (h : itemsFrom place vs = .ok (.ok ts)) : ∀ t ∈ ts, t.IsClean := by
  induction vs generalizing place ts with
  | nil =>
    cases h
    exact fun t ht => absurd ht List.not_mem_nil
  | cons v vs ih =>
    unfold itemsFrom at h
    split at h
    · cases h
    next first hfirst =>
    obtain ⟨rest, hrest, hcombine⟩ := Json.map_eq_ok h
    obtain ⟨u, us, rfl, rfl, rfl⟩ := combine_eq_ok hcombine
    intro t ht
    rcases List.mem_cons.1 ht with rfl | ht
    · exact isClean_of_item hvs.1 hfirst
    · exact ih hvs.2 hrest t ht

end Shape

namespace Store

variable {s : Store} {d : Disk} {ledger : Ledger}

/-- All transactions of a loaded ledger are clean. -/
theorem isClean_of_load (h : s.loadTransactions d = .ok ledger) : ∀ t ∈ ledger, t.IsClean := by
  unfold loadTransactions at h
  split at h
  · cases h
  · unfold readTransactions at h
    split at h
    · cases h
    next v hv =>
    split at h
    · cases h
    · cases h
    next ts hts =>
    cases h
    have hreadable : Json.Readable Json.greatestDepth v := by
      unfold readValue at hv
      split at hv
      · cases hv
      split at hv
      · next text _ w hread =>
        cases hv
        exact Json.readable_of_read hread
      · cases hv
      · cases hv
      · cases hv
    unfold Shape.transactions at hts
    split at hts
    · exact Shape.isClean_of_itemsFrom hreadable.2 hts
    · cases hts
  · cases h
    exact fun t ht => absurd ht List.not_mem_nil

end Store

end SpendingLedger

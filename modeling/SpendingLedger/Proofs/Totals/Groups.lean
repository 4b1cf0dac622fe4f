import SpendingLedger.Proofs.Value.Fields
import SpendingLedger.Summary

/-!
# Totals as sums of groups

Entries are added up in one pass, in which each adds its amount to the total of its category.  The
totals are the sums of the groups: each category stands once, where it first appeared, and its total
is the sum of the amounts of its own entries, in their order and from zero.  So the entries of other
categories have no part in it.

## Main definitions

* `Totals.Entry`, `Totals.Entry.IsCountable` — what is added up.
* `Totals.groupSums` — the categories of entries with the sums of their groups.

## Main results

* `Totals.groupSums_concat` — one more entry is added to the sum of its group.
* `Totals.ofTransactions_eq_groupSums` — the totals of transactions are the sums of their groups.
* `Totals.ofItems_eq_groupSums` — **the totals are the sums of the groups.**
-/

namespace SpendingLedger

/-! ### First appearances -/

section Appearances

variable {α : Type} [DecidableEq α]

/-- An element at the end appears first there if it has not appeared before. -/
theorem eraseDups_concat (l : List α) (a : α) :
    (l ++ [a]).eraseDups = if a ∈ l then l.eraseDups else l.eraseDups ++ [a] := by
  rw [List.eraseDups_append]
  by_cases h : a ∈ l <;> simp [List.removeAll, List.eraseDups_cons, h]

theorem nodup_eraseDups (l : List α) : l.eraseDups.Nodup := by
  induction l using List.reverseRecOn with
  | nil => exact List.nodup_nil
  | append_singleton l a ih =>
    rw [eraseDups_concat]
    split
    · exact ih
    · next h =>
      refine List.nodup_append.2 ⟨ih, by simp, ?_⟩
      rintro b hb _ hc rfl
      rw [List.mem_singleton.1 hc, List.mem_eraseDups] at hb
      exact h hb

end Appearances

namespace Totals

/-! ### Entries -/

/-- What is added up: a transaction, or a table of named values. -/
inductive Entry
  | transaction (t : Transaction)
  | table (fields : Fields Value)

namespace Entry

/-- An entry as it is added up. -/
def item : Entry → Item
  | .transaction t => .ofTransaction t
  | .table fields => .ofFields fields

/-- The category of an entry; one that is absent, null or empty is `uncategorized`. -/
def category : Entry → String
  | .transaction t => t.categoryName
  | .table fields => match (Fields.get? "category" fields).getD .null with
    | .text c => if c = "" then uncategorized else c
    | _ => uncategorized

/-- The amount of an entry. -/
def amount (e : Entry) : Binary64 := (Amount.coerce e.item.amount).toOption.getD .zero

/-- Whether an entry can be counted: its category, if it has any, is null or a text, and its amount
is one that a number can be found for. -/
def IsCountable : Entry → Prop
  | .transaction _ => True
  | .table fields =>
    ((Fields.get? "category" fields).getD .null = .null ∨
      ∃ c, (Fields.get? "category" fields).getD .null = .text c) ∧
      ∃ x, Amount.coerce ((Fields.get? "amount" fields).getD .null) = .ok x

end Entry

variable {entries : List Entry} {e : Entry}

/-- The category of an entry that can be counted is the one it is counted under. -/
theorem Entry.IsCountable.categoryName?_item (h : e.IsCountable) :
    e.item.categoryName? = some e.category := by
  cases e with
  | transaction t => exact Item.categoryName?_ofTransaction t
  | table fields =>
    unfold Entry.category
    dsimp only
    rcases h.1 with hnull | ⟨c, htext⟩
    · rw [hnull]
      exact Item.categoryName?_of_null hnull
    · rw [htext]
      exact Item.categoryName?_of_text htext

theorem Entry.IsCountable.coerce_amount_item (h : e.IsCountable) :
    Amount.coerce e.item.amount = .ok e.amount := by
  cases e with
  | transaction t => rfl
  | table fields =>
    obtain ⟨-, x, hx⟩ := h
    have hitem : Amount.coerce (Entry.table fields).item.amount = .ok x := hx
    rw [Entry.amount, hitem]
    rfl

/-- The totals after one more entry, whose amount is added to the total of its category. -/
def addEntry (totals : Totals) (e : Entry) : Totals := totals.add e.category e.amount

theorem addItem_item (h : e.IsCountable) (totals : Totals) :
    totals.addItem e.item = .ok (totals.addEntry e) := by
  rw [addItem, h.categoryName?_item]
  dsimp only
  rw [h.coerce_amount_item]
  rfl

/-- Entries that can be counted are all added up, one after the other. -/
theorem ofItems_map_item (h : ∀ e ∈ entries, e.IsCountable) :
    ofItems (entries.map Entry.item) = .ok (entries.foldl addEntry []) := by
  unfold ofItems
  generalize ([] : Totals) = totals
  induction entries generalizing totals with
  | nil => rfl
  | cons e entries ih =>
    rw [List.map_cons, List.foldlM_cons, addItem_item (h e List.mem_cons_self)]
    exact ih (fun e' he' => h e' (List.mem_cons_of_mem e he')) _

/-- A transaction is added like the item that it is. -/
theorem addItem_ofTransaction (totals : Totals) (t : Transaction) :
    totals.addItem (.ofTransaction t) =
      .ok (totals.add t.categoryName (Amount.finiteOrZero t.amount)) := by
  rw [addItem, Item.categoryName?_ofTransaction]
  rfl

/-- The totals of transactions are those of the items that they are. -/
theorem ofItems_map_ofTransaction (ts : List Transaction) :
    ofItems (ts.map Item.ofTransaction) = .ok (ofTransactions ts) := by
  suffices h : ∀ totals : Totals, (ts.map Item.ofTransaction).foldlM addItem totals =
      Except.ok (ts.foldl
        (fun totals t => totals.add t.categoryName (Amount.finiteOrZero t.amount)) totals) from h []
  induction ts with
  | nil => intro totals; rfl
  | cons t ts ih =>
    intro totals
    rw [List.map_cons, List.foldlM_cons, addItem_ofTransaction]
    exact ih _

/-! ### Groups -/

/-- The sum of the amounts of the entries of a category, in their order and from zero. -/
def groupSum (category : String) (entries : List Entry) : Binary64 :=
  ((entries.filter (·.category = category)).map Entry.amount).foldl (· + ·) .zero

/-- The categories of entries in the order of their first appearance, with the sums of their
groups. -/
def groupSums (entries : List Entry) : Totals :=
  (entries.map Entry.category).eraseDups.map fun category => (category, groupSum category entries)

/-- The sum of a group changes by the entries of its category only. -/
theorem groupSum_concat (category : String) (entries : List Entry) (e : Entry) :
    groupSum category (entries ++ [e]) =
      if category = e.category then groupSum category entries + e.amount
      else groupSum category entries := by
  unfold groupSum
  rw [List.filter_append]
  by_cases h : e.category = category
  · simp [h]
  · simp [h, Ne.symm h]

/-- A category has a total exactly if some entry has it, and then the total is the sum of its
group. -/
theorem get?_groupSums (category : String) (entries : List Entry) :
    Fields.get? category (groupSums entries) =
      if category ∈ entries.map Entry.category then some (groupSum category entries) else none := by
  unfold groupSums
  rw [Fields.get?_map_mk]
  simp only [List.mem_eraseDups]

/-- The sum of a group without entries is zero. -/
theorem groupSum_of_notMem {category : String} (h : category ∉ entries.map Entry.category) :
    groupSum category entries = .zero := by
  have hnone : entries.filter (·.category = category) = [] := by
    refine List.filter_eq_nil_iff.2 fun e he => ?_
    have hne : e.category ≠ category := fun heq => h (heq ▸ List.mem_map_of_mem he)
    simpa using hne
  rw [groupSum, hnone]
  rfl

/-- One more entry is added to the sum of its group. -/
theorem groupSums_concat (entries : List Entry) (e : Entry) :
    groupSums (entries ++ [e]) = (groupSums entries).addEntry e := by
  have hsum : ((groupSums entries : Totals).get? e.category).getD .zero =
      groupSum e.category entries := by
    rw [get?_groupSums]
    split
    · rfl
    · next h => exact (groupSum_of_notMem h).symm
  rw [addEntry, add, hsum, groupSums, groupSums, Fields.insert_map_mk (nodup_eraseDups _),
    List.map_append, List.map_singleton, eraseDups_concat]
  simp only [groupSum_concat, List.mem_eraseDups]
  refine List.map_congr_left fun category _ => ?_
  by_cases h : category = e.category
  · rw [if_pos h, if_pos h, h]
  · rw [if_neg h, if_neg h]

/-- Adding up entries one after the other gives the sums of their groups. -/
theorem foldl_addEntry (entries : List Entry) : entries.foldl addEntry [] = groupSums entries := by
  induction entries using List.reverseRecOn with
  | nil => rfl
  | append_singleton entries e ih =>
    rw [List.foldl_append, ih, groupSums_concat, List.foldl_cons, List.foldl_nil]

/-- The totals of transactions, which commands print, are the sums of their groups. -/
theorem ofTransactions_eq_groupSums (ts : List Transaction) :
    ofTransactions ts = groupSums (ts.map .transaction) := by
  have hcountable : ∀ e ∈ ts.map Entry.transaction, e.IsCountable :=
    List.forall_mem_map.2 fun _ _ => trivial
  have hentries := ofItems_map_item hcountable
  rw [List.map_map, foldl_addEntry] at hentries
  exact Except.ok.inj ((ofItems_map_ofTransaction ts).symm.trans hentries)

/-- The total of a category depends on the entries of that category alone. -/
theorem get?_groupSums_congr {category : String} {others : List Entry}
    (h : others.filter (·.category = category) = entries.filter (·.category = category)) :
    Fields.get? category (groupSums others) = Fields.get? category (groupSums entries) := by
  have hmem : ∀ es : List Entry, category ∈ es.map Entry.category ↔
      es.filter (·.category = category) ≠ [] := fun es => by
    simp [List.filter_eq_nil_iff]
  rw [get?_groupSums, get?_groupSums, groupSum, groupSum, h]
  simp only [hmem, h]

/-- **The totals are the sums of the groups.**  Entries that can be counted have totals: each of
their categories stands once, in the order of first appearance, with the sum of the amounts of its
own entries in their order.  The total of a category is the same for all entries that agree on those
of that category, whatever other entries stand among them. -/
theorem ofItems_eq_groupSums (h : ∀ e ∈ entries, e.IsCountable) :
    ofItems (entries.map Entry.item) = .ok (groupSums entries) ∧
      ∀ (others : List Entry) (category : String), (∀ e ∈ others, e.IsCountable) →
        others.filter (·.category = category) = entries.filter (·.category = category) →
          ∃ totals, ofItems (others.map Entry.item) = .ok totals ∧
            Fields.get? category totals = Fields.get? category (groupSums entries) := by
  constructor
  · rw [ofItems_map_item h, foldl_addEntry]
  · intro others category hothers hsame
    refine ⟨groupSums others, ?_, get?_groupSums_congr hsame⟩
    rw [ofItems_map_item hothers, foldl_addEntry]

/-- Entries of two categories, one of them under three spellings of its absence. -/
def mixedEntries : List Entry :=
  [.transaction ⟨"a", "2025-01-31", some "Shell", .ofRatio false 1 10, some "Gas"⟩,
    .table [("amount", .text "$2.50")],
    .table [("category", .text "Gas"), ("amount", .float (.ofRatio false 2 10))],
    .table [("category", .text ""), ("amount", .bool true)],
    .table [("category", .null), ("amount", .int 1)]]

/-- The sum of a group is rounded at each step. -/
theorem ofItems_eq_groupSums_mixed :
    ofItems (mixedEntries.map Entry.item) =
      .ok [("Gas", .ofRatio false 1 10 + .ofRatio false 2 10),
        ("Uncategorized", .ofRatio false 7 2)] := by
  have hone : Amount.coerce (.int 1) = .ok (.ofRatio false 1 1) := by decide +kernel
  have hcountable : ∀ e ∈ mixedEntries, e.IsCountable := by
    simp only [mixedEntries, List.forall_mem_cons]
    exact ⟨trivial, ⟨.inl rfl, _, rfl⟩, ⟨.inr ⟨_, rfl⟩, _, rfl⟩, ⟨.inr ⟨_, rfl⟩, _, rfl⟩,
      ⟨.inl rfl, _, hone⟩, List.forall_mem_nil _⟩
  rw [(ofItems_eq_groupSums hcountable).1]
  decide +kernel

end Totals

end SpendingLedger

import SpendingLedger.Proofs.Disk.Replace
import SpendingLedger.Proofs.Json.LineEnds
import SpendingLedger.Proofs.Text.Trim
import SpendingLedger.Store.Files

/-!
# Stored transactions

A ledger that was saved is loaded as it was, but for what storing settles: texts lose the white
space at their ends, a blank category is none, and an amount that is not finite is zero.  A ledger
on which there is nothing to settle comes back exactly.

## Main definitions

* `Transaction.settled` — a transaction as it is loaded after it was saved.
* `Transaction.IsStorable` — the transactions on which there is nothing to settle.

## Main results

* `Store.loadTransactions_of_file` — **a stored ledger is loaded with each transaction settled.**
* `Store.loadTransactions_saveTransactions` — **a storable ledger is loaded as it was saved.**
-/

namespace SpendingLedger

open Text (Trimmed isWhite)

/-! ### What storing settles -/

/-- A transaction as it is loaded after it was saved. -/
def Transaction.settled (t : Transaction) : Transaction where
  id := Shape.trimWhite t.id
  date := Shape.trimWhite t.date
  description := some (Shape.trimWhite t.descriptionText)
  amount := Amount.finiteOrZero t.amount
  category := t.category.bind fun c =>
    if Shape.trimWhite c = "" then none else some (Shape.trimWhite c)

namespace Shape

theorem trimWhite_of_trimmed {s : String} (h : Trimmed isWhite s.toList) : trimWhite s = s := by
  rw [trimWhite, Text.trimBy_of_trimmed h, String.ofList_toList]

theorem coerce_amount (x : Binary64) : Amount.coerce (.float x) = .ok (Amount.finiteOrZero x) := rfl

/-- An item is read as its transaction, settled. -/
theorem item_ofTransaction {t : Transaction} (h : Text.isBlank t.id = false) (place : Nat) :
    item place (ofTransaction t) = .ok (.ok t.settled) := by
  have hid : id [("id", .text t.id), ("date", .text t.date),
      ("description", ofOptional t.description), ("amount", .float t.amount),
      ("category", ofOptional t.category)] = .ok (trimWhite t.id) := by
    simp [id, Fields.get?, h]
  have hdescription : optionalText "description" [("id", .text t.id), ("date", .text t.date),
      ("description", ofOptional t.description), ("amount", .float t.amount),
      ("category", ofOptional t.category)] = trimWhite t.descriptionText := by
    cases hd : t.description with
    | none =>
      rw [Transaction.descriptionText, hd]
      rfl
    | some text =>
      rw [Transaction.descriptionText, hd]
      rfl
  have hcategory : category [("id", .text t.id), ("date", .text t.date),
      ("description", ofOptional t.description), ("amount", .float t.amount),
      ("category", ofOptional t.category)] = .ok t.settled.category := by
    cases hc : t.category with
    | none =>
      rw [Transaction.settled, hc]
      rfl
    | some c =>
      rw [Transaction.settled, hc]
      rfl
  unfold ofTransaction item
  show (Amount.coerce (.float t.amount)).map _ = _
  rw [coerce_amount, Except.map, transaction, hid, hcategory, hdescription]
  rfl

theorem itemsFrom_ofTransactions {ts : List Transaction}
    (h : ∀ t ∈ ts, Text.isBlank t.id = false) (place : Nat) :
    itemsFrom place (ts.map ofTransaction) = .ok (.ok (ts.map Transaction.settled)) := by
  induction ts generalizing place with
  | nil => rfl
  | cons t ts ih =>
    have hrest := ih (fun u hu => h u (List.mem_cons_of_mem t hu)) (place + 1)
    rw [List.map_cons, itemsFrom, item_ofTransaction (h t List.mem_cons_self)]
    dsimp only
    rw [hrest]
    rfl

/-- A stored ledger can be read: its lists and objects are two deep. -/
theorem readable_ofTransactions (ts : List Transaction) :
    Json.Readable Json.greatestDepth (ofTransactions ts) := by
  have hitem : ∀ t, Json.Readable (Json.greatestDepth - 1) (ofTransaction t) := by
    intro t
    have hnames : ["id", "date", "description", "amount", "category"].Nodup := by decide
    refine ⟨by decide, hnames, ?_⟩
    refine Json.readableFields_iff.2 fun f hf => ?_
    simp only [List.mem_cons, List.not_mem_nil, or_false] at hf
    have hoptional : ∀ s depth, Json.Readable depth (ofOptional s) := by
      intro s depth
      cases s <;> exact trivial
    rcases hf with rfl | rfl | rfl | rfl | rfl
    · exact trivial
    · exact trivial
    · exact hoptional _ _
    · exact trivial
    · exact hoptional _ _
  refine ⟨by decide, Json.readableItems_iff.2 fun v hv => ?_⟩
  obtain ⟨t, -, rfl⟩ := List.mem_map.1 hv
  exact hitem t

end Shape

namespace Store

/-! ### Loading what was saved -/

/-- A file with a value is read as that value. -/
theorem readValue_document {d : Disk} {file : Location} {v : Value}
    (hv : Json.Readable Json.greatestDepth v)
    (h : d.node? file = some (.file (.text (document v)))) : readValue d file = .ok v := by
  unfold readValue
  rw [Disk.readText_render h]
  dsimp only
  rw [Json.read_render hv]

theorem exists?_of_node? {d : Disk} {l : Location} {n : Node} (h : d.node? l = some n) :
    d.exists? l = .ok true := by
  rw [Disk.exists?, Disk.contains, h]
  rfl

/-- A stored ledger is loaded with each transaction settled. -/
theorem loadTransactions_of_file {s : Store} {d : Disk} {ts : List Transaction}
    (h : ∀ t ∈ ts, Text.isBlank t.id = false)
    (hfile : d.node? s.transactionsFile =
      some (.file (.text (document (Shape.ofTransactions ts))))) :
    s.loadTransactions d = .ok (ts.map Transaction.settled) := by
  have hitems := Shape.itemsFrom_ofTransactions h 0
  have hshape : Shape.transactions (Shape.ofTransactions ts) =
      .ok (.ok (ts.map Transaction.settled)) := hitems
  unfold loadTransactions
  rw [exists?_of_node? hfile]
  dsimp only
  rw [readTransactions, readValue_document (Shape.readable_ofTransactions ts) hfile]
  dsimp only
  rw [hshape]

theorem transactionsFile_ne_nil (s : Store) : s.transactionsFile ≠ [] := by
  simp [transactionsFile, Location.child]

end Store

/-! ### Storable transactions -/

/-- Whether there is nothing to settle on a transaction: its id is not blank and no text has white
space at its ends, a category is not empty, and the amount is finite. -/
structure Transaction.IsStorable (t : Transaction) : Prop where
  id_not_blank : Text.isBlank t.id = false
  id_trimmed : Trimmed isWhite t.id.toList
  date_trimmed : Trimmed isWhite t.date.toList
  description_trimmed : ∃ text, t.description = some text ∧ Trimmed isWhite text.toList
  category_trimmed : ∀ c, t.category = some c → c ≠ "" ∧ Trimmed isWhite c.toList
  amount_finite : t.amount.isFinite = true

/-- A storable transaction is settled. -/
theorem Transaction.settled_of_isStorable {t : Transaction} (h : t.IsStorable) : t.settled = t := by
  obtain ⟨text, htext, htrimmed⟩ := h.description_trimmed
  have hdescription : some (Shape.trimWhite t.descriptionText) = t.description := by
    rw [descriptionText, htext, Option.getD_some, Shape.trimWhite_of_trimmed htrimmed]
  have hamount : Amount.finiteOrZero t.amount = t.amount := if_pos h.amount_finite
  have hcategory : (t.category.bind fun c =>
      if Shape.trimWhite c = "" then none else some (Shape.trimWhite c)) = t.category := by
    cases hc : t.category with
    | none => rfl
    | some c =>
      obtain ⟨hne, hctrimmed⟩ := h.category_trimmed c hc
      rw [Option.bind_some, Shape.trimWhite_of_trimmed hctrimmed, if_neg hne]
  unfold settled
  rw [Shape.trimWhite_of_trimmed h.id_trimmed, Shape.trimWhite_of_trimmed h.date_trimmed,
    hdescription, hamount, hcategory]

/-- A storable ledger that was saved is loaded as it was, and it is saved wherever its file can be
replaced. -/
theorem Store.loadTransactions_saveTransactions (s : Store) (d : Disk) (ts : List Transaction)
    (h : ∀ t ∈ ts, t.IsStorable) :
    (d.CanReplace s.transactionsFile → (s.saveTransactions d ts).2 = none) ∧
      ((s.saveTransactions d ts).2 = none →
        s.loadTransactions (s.saveTransactions d ts).1 = .ok ts) := by
  have hne := s.transactionsFile_ne_nil
  constructor
  · intro hcan
    exact Disk.replaceFile_of_canReplace hne hcan _
  · intro hsaved
    have hfile : (s.saveTransactions d ts).1.node? s.transactionsFile =
        some (.file (.text (document (Shape.ofTransactions ts)))) := by
      rw [saveTransactions, Disk.node?_replaceFile d hne]
      exact if_pos hsaved
    have hsettled : ts.map Transaction.settled = ts := by
      rw [List.map_congr_left fun t ht => Transaction.settled_of_isStorable (h t ht), List.map_id']
    rw [loadTransactions_of_file (fun t ht => (h t ht).id_not_blank) hfile, hsettled]

/-- A file can be replaced on an empty disk. -/
theorem Disk.canReplace_empty {l : Location}
    (hnames : ∀ n ∈ l.withEnding draftEnding, isLongName n = false)
    (hdirectory : isLongPath l.parent.text = false)
    (hdraft : isLongPath (l.withEnding draftEnding).text = false) (hl : l ≠ []) :
    CanReplace {} l := by
  have hnothing : ∀ o, o ≠ [] → ({} : Disk).node? o = none := by
    intro o ho
    rw [node?, if_neg ho]
    rfl
  have hdraftFree : ({} : Disk).node? (l.withEnding draftEnding) ≠ some .directory := by
    rw [hnothing _ (l.withEnding_ne_nil _)]
    exact fun h => by cases h
  have hfree : ({} : Disk).node? l ≠ some .directory := by
    rw [hnothing l hl]
    exact fun h => by cases h
  refine ⟨rfl, hnames, hdirectory, hdraft, fun o _ c hfile => ?_, hdraftFree, hfree⟩
  by_cases ho : o = []
  · rw [ho, node?_nil] at hfile
    cases hfile
  · rw [hnothing o ho] at hfile
    cases hfile

/-- Quotes, line ends and the sign of zero come back. -/
theorem Store.loadTransactions_saveTransactions_of_quotes :
    let t : Transaction := ⟨"a b", "2024-01-02", some "tea \"no. 1\"\r\n(x)", -.zero, none⟩
    (∀ u ∈ [t], u.IsStorable) ∧
      (Store.mk ["data"]).loadTransactions ((Store.mk ["data"]).saveTransactions {} [t]).1 =
        .ok [t] := by
  intro t
  have hstorable : ∀ u ∈ [t], u.IsStorable := by
    intro u hu
    rw [List.mem_singleton.1 hu]
    have hcategory : ∀ c, t.category = some c → c ≠ "" ∧ Trimmed isWhite c.toList := by
      intro c hc
      cases hc
    exact ⟨by decide, by decide, by decide, ⟨_, rfl, by decide⟩, hcategory, rfl⟩
  have hcan : Disk.CanReplace {} (Store.mk ["data"]).transactionsFile :=
    Disk.canReplace_empty (by decide) (by decide) (by decide) (by decide)
  obtain ⟨hsaves, hloads⟩ :=
    Store.loadTransactions_saveTransactions ⟨["data"]⟩ {} [t] hstorable
  exact ⟨hstorable, hloads (hsaves hcan)⟩

end SpendingLedger

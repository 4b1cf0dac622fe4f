import SpendingLedger.Proofs.Store.Clean
import SpendingLedger.Proofs.Store.Transactions

/-!
# Accepted ledger files

A file of transactions is accepted when its value is a list of objects that have an id, neither null
nor blank, and no category but a text or null.  Each object then gives one transaction.  Any other
value is rejected with all that is wrong with it, item by item.

What counts as blank differs: an id is blank when it holds nothing but space, which includes the
information separators, and a category when nothing of it is left without white space, which does
not.  A text whose integers are too long, or whose lists and objects are too deep, has no value.

## Main definitions

* `Shape.IsItem`, `Shape.IsLedger` — the values that are accepted.
* `Shape.Reads` — what an accepted item and its transaction have to do with each other.
* `Shape.findings` — all that is wrong with a value.
* `Shape.Reports` — a result that is good, or else reports what is wrong.

## Main results

* `Shape.findings_eq_nil_iff` — nothing is wrong with the accepted values alone.
* `Shape.Reads.unique` — an item has one transaction.
* `Store.loadTransactions_accepts` — **the files that are accepted, what is loaded from them, and
  what is said of the others.**
-/

namespace SpendingLedger

namespace Shape

variable {depth place : Nat} {item : Fields Value} {v : Value}

/-! ### Accepted values -/

/-- Whether a value can be an id: it is neither null nor a blank text. -/
def isId : Value → Bool
  | .null => false
  | .text s => !Text.isBlank s
  | _ => true

/-- Whether a value can be a category: it is null or a text. -/
def isCategory : Value → Bool
  | .null => true
  | .text _ => true
  | _ => false

/-- Whether an object has an id. -/
def HasId (item : Fields Value) : Prop := ∃ v ∈ Fields.get? "id" item, isId v = true

/-- Whether an object has no category but one that can be it. -/
def HasFittingCategory (item : Fields Value) : Prop :=
  ∀ v ∈ Fields.get? "category" item, isCategory v = true

instance (item : Fields Value) : Decidable (HasId item) :=
  inferInstanceAs (Decidable (∃ v ∈ Fields.get? "id" item, isId v = true))

instance (item : Fields Value) : Decidable (HasFittingCategory item) :=
  inferInstanceAs (Decidable (∀ v ∈ Fields.get? "category" item, isCategory v = true))

/-- Whether a value is an item of a ledger. -/
def IsItem : Value → Prop
  | .table item => HasId item ∧ HasFittingCategory item
  | _ => False

/-- Whether a value is a ledger. -/
def IsLedger : Value → Prop
  | .list items => ∀ v ∈ items, IsItem v
  | _ => False

/-- Whether the amount of an item is no integer that is too large for one. -/
def FitsAmount : Value → Prop
  | .table item => ∀ n, Fields.get? "amount" item = some (.int n) → Binary64.ofInt? n ≠ none
  | _ => True

/-- Whether no amount of an item is an integer that is too large for one. -/
def FitsAmounts : Value → Prop
  | .list items => ∀ v ∈ items, FitsAmount v
  | _ => True

/-! ### What is wrong with a value -/

/-- What is wrong with the id of an object that has none. -/
def idFault (item : Fields Value) : FindingKind :=
  if (Fields.get? "id" item).isNone then .missing else .blankId

/-- What is wrong with a value at a place of a ledger. -/
def faults (place : Nat) : Value → List Finding
  | .table item =>
    (if HasId item then [] else [⟨[toString place, "id"], idFault item⟩]) ++
      (if HasFittingCategory item then [] else [⟨[toString place, "category"], .notText⟩])
  | _ => [⟨[toString place], .notRecord⟩]

/-- What is wrong with values from a place of a ledger on. -/
def faultsFrom (place : Nat) (items : List Value) : List Finding :=
  (items.zipIdx place).flatMap fun p => faults p.2 p.1

/-- What is wrong with a value that should be a ledger. -/
def findings : Value → List Finding
  | .list items => faultsFrom 0 items
  | _ => [⟨[], .notList⟩]

theorem faultsFrom_cons (place : Nat) (v : Value) (vs : List Value) :
    faultsFrom place (v :: vs) = faults place v ++ faultsFrom (place + 1) vs := rfl

/-- Nothing is wrong with the items of a ledger alone. -/
theorem faults_eq_nil_iff : faults place v = [] ↔ IsItem v := by
  cases v with
  | table item => simp [faults, IsItem]
  | _ => simp [faults, IsItem]

theorem faultsFrom_eq_nil_iff {vs : List Value} :
    faultsFrom place vs = [] ↔ ∀ v ∈ vs, IsItem v := by
  induction vs generalizing place with
  | nil => simp [faultsFrom]
  | cons v vs ih =>
    rw [faultsFrom_cons, List.append_eq_nil_iff, faults_eq_nil_iff, ih, List.forall_mem_cons]

/-- Nothing is wrong with ledgers alone. -/
theorem findings_eq_nil_iff : findings v = [] ↔ IsLedger v := by
  cases v with
  | list items => exact faultsFrom_eq_nil_iff
  | _ => simp [findings, IsLedger]

/-! ### Transactions of items -/

/-- The text under a name of an object: it is empty if the value is absent or null, and else that of
the value without white space at its ends. -/
inductive TextUnder (name : String) (item : Fields Value) : String → Prop
  | absent (h : Fields.get? name item = none) : TextUnder name item ""
  | null (h : Fields.get? name item = some .null) : TextUnder name item ""
  | text {v : Value} {s : String} (h : Fields.get? name item = some v) (hnull : v ≠ .null)
      (htext : v.asText = .ok s) : TextUnder name item (trimWhite s)

/-- The category of an object: there is none if it is absent or null, or if nothing is left of it
without white space at its ends. -/
inductive CategoryUnder (item : Fields Value) : Option String → Prop
  | absent (h : Fields.get? "category" item = none) : CategoryUnder item none
  | null (h : Fields.get? "category" item = some .null) : CategoryUnder item none
  | blank {s : String} (h : Fields.get? "category" item = some (.text s))
      (hblank : trimWhite s = "") : CategoryUnder item none
  | named {s : String} (h : Fields.get? "category" item = some (.text s))
      (hnamed : trimWhite s ≠ "") : CategoryUnder item (some (trimWhite s))

/-- Whether a transaction has what an object says of it. -/
structure IsReadFrom (item : Fields Value) (t : Transaction) : Prop where
  id : TextUnder "id" item t.id
  date : TextUnder "date" item t.date
  description : ∃ s, t.description = some s ∧ TextUnder "description" item s
  amount : Amount.coerce ((Fields.get? "amount" item).getD .null) = .ok t.amount
  category : CategoryUnder item t.category

/-- Whether a transaction has what a value says of it. -/
def Reads (v : Value) (t : Transaction) : Prop := ∃ item, v = .table item ∧ IsReadFrom item t

theorem TextUnder.unique {name s s' : String} (h : TextUnder name item s)
    (h' : TextUnder name item s') : s = s' := by
  cases h <;> cases h' <;> simp_all

theorem CategoryUnder.unique {c c' : Option String} (h : CategoryUnder item c)
    (h' : CategoryUnder item c') : c = c' := by
  cases h <;> cases h' <;> simp_all

/-- An item has one transaction. -/
theorem Reads.unique {t t' : Transaction} (h : Reads v t) (h' : Reads v t') : t = t' := by
  obtain ⟨item, rfl, h⟩ := h
  obtain ⟨item', heq, h'⟩ := h'
  cases heq
  obtain ⟨s, hs, htext⟩ := h.description
  obtain ⟨s', hs', htext'⟩ := h'.description
  have hdescription : t.description = t'.description := by rw [hs, hs', htext.unique htext']
  have hamount : t.amount = t'.amount := Except.ok.inj (h.amount.symm.trans h'.amount)
  have hid := h.id.unique h'.id
  have hdate := h.date.unique h'.date
  have hcategory := h.category.unique h'.category
  cases t
  cases t'
  simp_all

/-! ### Reading an item -/

/-- A result that is good if there are no faults, and else reports them. -/
inductive Reports {α : Type} (Good : α → Prop) (faults : List Finding) :
    Except (List Finding) α → Prop
  | ok {a : α} (hnone : faults = []) (h : Good a) : Reports Good faults (.ok a)
  | error (hsome : faults ≠ []) : Reports Good faults (.error faults)

theorem Reports.imp {α : Type} {P Q : α → Prop} {faults : List Finding}
    {result : Except (List Finding) α} (h : Reports P faults result) (hPQ : ∀ a, P a → Q a) :
    Reports Q faults result := by
  cases h with
  | ok hnone h => exact .ok hnone (hPQ _ h)
  | error hsome => exact .error hsome

theorem exists_asText (h : Json.Readable depth v) : ∃ s, v.asText = .ok s := by
  cases v with
  | text s => exact ⟨s, rfl⟩
  | _ => exact (Json.exists_asText_of_readable h fun s hs => by cases hs).imp fun _ => And.left

theorem textUnder_some (h : Json.Readable depth v) {name : String}
    (hv : Fields.get? name item = some v) (hnull : v ≠ .null) :
    TextUnder name item (trimWhite (textOf v)) := by
  obtain ⟨s, hs⟩ := exists_asText h
  have htext : textOf v = s := by
    rw [textOf, hs]
    rfl
  rw [htext]
  exact .text hv hnull hs

section

variable (hitem : Json.ReadableFields depth item)

include hitem

theorem readable_of_get? {name : String} (h : Fields.get? name item = some v) :
    Json.Readable depth v :=
  Json.readableFields_iff.1 hitem _ (Fields.mem_of_get? h)

theorem textUnder_optionalText (name : String) : TextUnder name item (optionalText name item) := by
  unfold optionalText
  split
  · next h => exact .absent h
  · next h => exact .null h
  · next v hnull h => exact textUnder_some (readable_of_get? hitem h) h hnull

/-- An object that has an id gives it, and one that has none says why. -/
theorem id_cases : (HasId item ∧ ∃ i, id item = .ok i ∧ TextUnder "id" item i) ∨
    (¬HasId item ∧ id item = .error (idFault item)) := by
  unfold HasId id idFault
  split
  · next h => simp [h]
  · next h => simp [h, isId]
  · next s h =>
    by_cases hblank : Text.isBlank s = true
    · simp [h, isId, hblank]
    · have htext : TextUnder "id" item (trimWhite s) := .text h (fun heq => by cases heq) rfl
      exact Or.inl ⟨⟨_, h, by simpa [isId] using hblank⟩, _, if_neg hblank, htext⟩
  · next v hnull htext h =>
    -- a value that is neither null nor a text has a text of its own, which is not blank
    have hid : isId v = true := by
      cases v with
      | null => exact absurd rfl hnull
      | text s => exact absurd rfl (htext s)
      | _ => rfl
    exact Or.inl ⟨⟨v, h, hid⟩, _, rfl, textUnder_some (readable_of_get? hitem h) h hnull⟩

omit hitem in
/-- An object whose category fits gives it. -/
theorem category_cases :
    (HasFittingCategory item ∧ ∃ c, category item = .ok c ∧ CategoryUnder item c) ∨
      (¬HasFittingCategory item ∧ category item = .error .notText) := by
  unfold HasFittingCategory category
  split
  · next h => exact Or.inl ⟨by simp [h], _, rfl, .absent h⟩
  · next h => exact Or.inl ⟨by simp [h, isCategory], _, rfl, .null h⟩
  · next s h =>
    refine Or.inl ⟨by simp [h, isCategory], _, rfl, ?_⟩
    split
    · next hblank => exact .blank h hblank
    · next hnamed => exact .named h hnamed
  · next v hnull htext h =>
    refine Or.inr ⟨fun hfits => ?_, rfl⟩
    have hcategory : isCategory v = true := hfits v h
    cases v with
    | null => exact hnull rfl
    | text s => exact htext s rfl
    | _ => cases hcategory

/-- The transaction of an object is read from it, or the object has faults, which are reported. -/
theorem reports_transaction {amount : Binary64}
    (hamount : Amount.coerce ((Fields.get? "amount" item).getD .null) = .ok amount) :
    Reports (IsReadFrom item) (faults place (.table item)) (transaction place amount item) := by
  unfold transaction faults
  dsimp only
  rcases id_cases hitem with ⟨hid, i, hi, htext⟩ | ⟨hid, hi⟩ <;>
    rcases @category_cases item with ⟨hcategory, c, hc, hunder⟩ | ⟨hcategory, hc⟩ <;>
    simp only [hi, hc, if_pos, if_neg, hid, hcategory, not_false_eq_true, List.nil_append,
      List.append_nil, List.singleton_append]
  -- the id and the category are looked at apart, so that both can be found at fault
  · exact .ok rfl
      { id := htext
        date := textUnder_optionalText hitem "date"
        description := ⟨_, rfl, textUnder_optionalText hitem "description"⟩
        amount := hamount
        category := hunder }
  · exact .error (List.cons_ne_nil _ _)
  · exact .error (List.cons_ne_nil _ _)
  · exact .error (List.cons_ne_nil _ _)

end

/-- What was read has an amount, unless it is an integer that is too large. -/
theorem exists_coerce (h : Json.Readable depth v)
    (hfits : ∀ n, v = .int n → Binary64.ofInt? n ≠ none) : ∃ x, Amount.coerce v = .ok x := by
  cases v with
  | int n =>
    obtain ⟨x, hx⟩ := Option.ne_none_iff_exists'.1 (hfits n rfl)
    exact ⟨_, by rw [Amount.coerce, hx]; rfl⟩
  | decimal x => exact h.elim
  | _ => exact ⟨_, rfl⟩

theorem exists_item (place : Nat) (h : Json.Readable depth v) (hfits : FitsAmount v) :
    ∃ result, Shape.item place v = .ok result ∧ Reports (Reads v) (faults place v) result := by
  cases v with
  | table item =>
    have hitem : Json.ReadableFields (depth - 1) item := h.2.2
    have hcoerce : ∃ x, Amount.coerce ((Fields.get? "amount" item).getD .null) = .ok x := by
      cases hv : Fields.get? "amount" item with
      | none => exact ⟨_, rfl⟩
      | some v =>
        exact exists_coerce (readable_of_get? hitem hv) fun n hn => hfits n (hn ▸ hv)
    obtain ⟨amount, hamount⟩ := hcoerce
    refine ⟨transaction place amount item, by rw [Shape.item, hamount]; rfl, ?_⟩
    exact (reports_transaction hitem hamount).imp fun t hread => ⟨item, rfl, hread⟩
  | _ => exact ⟨_, rfl, .error (List.cons_ne_nil _ _)⟩

/-! ### Reading a ledger -/

theorem reports_combine {v : Value} {vs : List Value} {fs gs : List Finding}
    {first : Except (List Finding) Transaction} {rest : Except (List Finding) (List Transaction)}
    (hfirst : Reports (Reads v) fs first) (hrest : Reports (List.Forall₂ Reads vs) gs rest) :
    Reports (List.Forall₂ Reads (v :: vs)) (fs ++ gs) (combine first rest) := by
  cases hfirst with
  | ok hnone h =>
    subst hnone
    cases hrest with
    | ok hnone' h' => exact .ok hnone' (.cons h h')
    | error hsome => exact .error hsome
  | error hsome =>
    cases hrest with
    | ok hnone' h' =>
      subst hnone'
      rw [List.append_nil]
      exact .error hsome
    | error => exact .error fun h => hsome (List.append_eq_nil_iff.1 h).1

/-- The items of a list are read in order, and all their faults are reported. -/
theorem exists_itemsFrom (place : Nat) {vs : List Value} (h : ∀ v ∈ vs, Json.Readable depth v)
    (hfits : ∀ v ∈ vs, FitsAmount v) : ∃ result, itemsFrom place vs = .ok result ∧
      Reports (List.Forall₂ Reads vs) (faultsFrom place vs) result := by
  induction vs generalizing place with
  | nil => exact ⟨_, rfl, .ok rfl .nil⟩
  | cons v vs ih =>
    rw [List.forall_mem_cons] at h hfits
    obtain ⟨first, hfirst, hreports⟩ := exists_item place h.1 hfits.1
    obtain ⟨rest, hrest, hreports'⟩ := ih (place + 1) h.2 hfits.2
    refine ⟨combine first rest, ?_, reports_combine hreports hreports'⟩
    rw [itemsFrom, hfirst, hrest]
    rfl

/-- The transactions of a value are those of its items; what is wrong with it is reported. -/
theorem exists_transactions (h : Json.Readable depth v) (hfits : FitsAmounts v) :
    ∃ result, transactions v = .ok result ∧
      Reports (fun ts => ∃ items, v = .list items ∧ List.Forall₂ Reads items ts) (findings v)
        result := by
  cases v with
  | list items =>
    obtain ⟨result, hresult, hreports⟩ :=
      exists_itemsFrom 0 (Json.readableItems_iff.1 h.2) hfits
    exact ⟨result, hresult, hreports.imp fun ts hreads => ⟨items, rfl, hreads⟩⟩
  | _ => exact ⟨_, rfl, .error (List.cons_ne_nil _ _)⟩

end Shape

namespace Json

/-- More brackets than lists may stand in one another are too deep.  Each of them takes one level
of depth and two of the readers. -/
theorem value_of_brackets {depth fuel : Nat} (hfuel : 2 * depth < fuel) (rest : List Char) :
    value depth fuel (List.replicate (depth + 1) '[' ++ rest) = .error .tooDeep := by
  induction depth generalizing fuel with
  | zero =>
    obtain ⟨fuel, rfl⟩ := Nat.exists_eq_add_one_of_ne_zero (Nat.ne_of_gt hfuel)
    rfl
  | succ depth ih =>
    obtain ⟨fuel, rfl⟩ := Nat.exists_eq_add_of_le' (show 2 ≤ fuel by omega)
    have hitems : items depth (fuel + 1) (List.replicate (depth + 1) '[' ++ rest) =
        .error .tooDeep := by
      rw [items, ih (by omega)]
    have hblanks : skipBlanks (List.replicate (depth + 1) '[' ++ rest) =
        '[' :: (List.replicate depth '[' ++ rest) := skipBlanks_cons _ (by decide)
    rw [List.replicate_succ, List.cons_append, value, if_neg (by decide), if_pos rfl,
      if_neg (Nat.succ_ne_zero depth), hblanks]
    show (items depth (fuel + 1) (List.replicate (depth + 1) '[' ++ rest)).map _ = _
    rw [hitems]
    rfl

/-- A text that begins with so many brackets is not read. -/
theorem read_of_brackets (rest : List Char) :
    read (String.ofList (List.replicate (greatestDepth + 1) '[' ++ rest)) = .error .tooDeep := by
  have hhead : (List.replicate (greatestDepth + 1) '[' ++ rest).head? ≠ some '\ufeff' := by
    rw [List.replicate_succ, List.cons_append, List.head?_cons]
    decide
  have hblanks : skipBlanks (List.replicate (greatestDepth + 1) '[' ++ rest) =
      List.replicate (greatestDepth + 1) '[' ++ rest := by
    rw [List.replicate_succ, List.cons_append]
    exact skipBlanks_cons _ (by decide)
  have hfuel : 2 * greatestDepth <
      2 * (List.replicate (greatestDepth + 1) '[' ++ rest).length + 2 := by
    rw [List.length_append, List.length_replicate]
    omega
  rw [read, String.toList_ofList, parseAll, if_neg hhead, hblanks, value_of_brackets hfuel]
  rfl

theorem isOk_of_read {text : String} {v : Value} (h : read text = .ok v) :
    (parseAll text.toList).isOk = true := by
  cases hparse : parseAll text.toList with
  | ok w => rfl
  | error e =>
    rw [read, hparse] at h
    cases h

end Json

namespace Store

variable {s : Store} {d : Disk} {text : String} {v : Value}

/-! ### Loading -/

theorem loadTransactions_of_readText (h : d.readText s.transactionsFile = .ok text) :
    s.loadTransactions d = readTransactions d s.transactionsFile := by
  cases hn : d.node? s.transactionsFile with
  | none =>
    rw [Disk.readText, hn] at h
    cases h
  | some n => rw [loadTransactions, exists?_of_node? hn]

/-- A file whose text is read holds a ledger, which is loaded, or it is rejected with all that is
wrong with it. -/
theorem loadTransactions_cases (h : d.readText s.transactionsFile = .ok text)
    (hv : Json.read text = .ok v) (hfits : Shape.FitsAmounts v) :
    (Shape.IsLedger v ∧ ∃ items ts, v = .list items ∧ s.loadTransactions d = .ok ts ∧
        List.Forall₂ Shape.Reads items ts) ∨
      (¬Shape.IsLedger v ∧ s.loadTransactions d =
        .error (.wrongShape s.transactionsFile .transactionList (Shape.findings v))) := by
  obtain ⟨result, hresult, hreports⟩ :=
    Shape.exists_transactions (Json.readable_of_read hv) hfits
  have hvalue : readValue d s.transactionsFile = .ok v := by
    rw [readValue, h]
    dsimp only
    rw [hv]
  rw [loadTransactions_of_readText h, readTransactions, hvalue]
  dsimp only
  rw [hresult, ← Shape.findings_eq_nil_iff]
  cases hreports with
  | ok hnone hread =>
    obtain ⟨items, rfl, hreads⟩ := hread
    exact Or.inl ⟨hnone, items, _, rfl, rfl, hreads⟩
  | error hsome => exact Or.inr ⟨hsome, rfl⟩

/-- A file whose text is not read is not loaded, for the same reason. -/
theorem loadTransactions_of_read_error (h : d.readText s.transactionsFile = .ok text) :
    (∀ place, Json.read text = .error (.syntaxFault place) →
      s.loadTransactions d = .error (.notJson s.transactionsFile place)) ∧
    (∀ e, Json.read text = .error (.integerTooLong e) →
      s.loadTransactions d = .error (.integerTooLong e)) ∧
    (Json.read text = .error .tooDeep → s.loadTransactions d = .error .tooDeep) := by
  rw [loadTransactions_of_readText h, readTransactions, readValue, h]
  dsimp only
  refine ⟨fun place he => ?_, fun e he => ?_, fun he => ?_⟩ <;> rw [he]

/-- What is loaded was read. -/
theorem exists_read_of_load (h : d.readText s.transactionsFile = .ok text) {ts : List Transaction}
    (hload : s.loadTransactions d = .ok ts) : ∃ v, Json.read text = .ok v := by
  obtain ⟨hfault, hlong, hdeep⟩ := loadTransactions_of_read_error h
  cases hread : Json.read text with
  | ok v => exact ⟨v, rfl⟩
  | error e =>
    cases e with
    | syntaxFault place => cases (hfault place hread).symm.trans hload
    | integerTooLong e => cases (hlong e hread).symm.trans hload
    | tooDeep => cases (hdeep hread).symm.trans hload

/-- **The files that are accepted.**  A file is loaded if and only if its text is read as a ledger.
Each of its items then gives a transaction, in order.  Every other value is rejected with all that
is wrong with it, and a text that has no value is rejected for that reason. -/
theorem loadTransactions_accepts (s : Store) (d : Disk)
    (h : d.readText s.transactionsFile = .ok text)
    (hfits : ∀ v, Json.read text = .ok v → Shape.FitsAmounts v) :
    ((∃ ts, s.loadTransactions d = .ok ts) ↔
      ∃ v, Json.read text = .ok v ∧ Shape.IsLedger v) ∧
    (∀ v, Json.read text = .ok v →
      (∀ ts, s.loadTransactions d = .ok ts →
        ∃ items, v = .list items ∧ List.Forall₂ Shape.Reads items ts) ∧
      (¬Shape.IsLedger v → s.loadTransactions d =
        .error (.wrongShape s.transactionsFile .transactionList (Shape.findings v)))) ∧
    (∀ e, Json.read text = .error (.integerTooLong e) →
      s.loadTransactions d = .error (.integerTooLong e)) ∧
    (Json.read text = .error .tooDeep → s.loadTransactions d = .error .tooDeep) := by
  refine ⟨⟨?_, ?_⟩, ?_, (loadTransactions_of_read_error h).2⟩
  · rintro ⟨ts, hload⟩
    obtain ⟨v, hread⟩ := exists_read_of_load h hload
    rcases loadTransactions_cases h hread (hfits v hread) with ⟨hledger, -⟩ | ⟨-, herror⟩
    · exact ⟨v, hread, hledger⟩
    · cases herror.symm.trans hload
  · rintro ⟨v, hread, hledger⟩
    rcases loadTransactions_cases h hread (hfits v hread) with ⟨-, _, ts, -, hload, -⟩ | ⟨hno, -⟩
    · exact ⟨ts, hload⟩
    · exact absurd hledger hno
  · intro v hread
    rcases loadTransactions_cases h hread (hfits v hread) with
      ⟨hledger, items, ts, rfl, hload, hreads⟩ | ⟨-, herror⟩
    · refine ⟨fun us hus => ⟨items, rfl, ?_⟩, fun hno => absurd hledger hno⟩
      cases hload.symm.trans hus
      exact hreads
    · exact ⟨fun us hus => (by cases herror.symm.trans hus), fun _ => herror⟩

/-! ### Files at the limits -/

/-- A disk with a text in the file of the ledger. -/
def withLedgerText (s : Store) (text : String) : Disk :=
  Disk.set {} s.transactionsFile (.file (.text text))

theorem node?_withLedgerText (s : Store) (text : String) :
    (s.withLedgerText text).node? s.transactionsFile = some (.file (.text text)) := by
  rw [withLedgerText, Disk.node?_set _ _ _ _ s.transactionsFile_ne_nil, if_pos rfl]

theorem readText_withLedgerText (s : Store) {text : String} (h : '\r' ∉ text.toList) :
    (s.withLedgerText text).readText s.transactionsFile = .ok text := by
  rw [Disk.readText, node?_withLedgerText]
  show Except.ok (String.ofList (unifyLineEnds text.toList)) = _
  rw [unifyLineEnds_of_not_mem h, String.ofList_toList]

theorem readText_document (s : Store) (v : Value) :
    (s.withLedgerText (document v)).readText s.transactionsFile = .ok (document v) :=
  Disk.readText_render (s.node?_withLedgerText _)

/-- A second item with a blank id and a category that is no text, and a third that is no object, are
all found. -/
theorem loadTransactions_accepts_one_of_three :
    let items : List Value := [.table [("id", .text " 7 "), ("amount", .text "$1")],
      .table [("id", .text " "), ("category", .int 0)], .null]
    let s : Store := ⟨["data"]⟩
    s.loadTransactions (s.withLedgerText (document (.list items))) =
      .error (.wrongShape s.transactionsFile .transactionList
        [⟨["1", "id"], .blankId⟩, ⟨["1", "category"], .notText⟩, ⟨["2"], .notRecord⟩]) := by
  intro items s
  have hread : Json.read (document (.list items)) = .ok (.list items) := by
    refine Json.read_render ⟨by decide, ?_⟩
    simp only [items, Json.ReadableItems, Json.ReadableFields, Json.Readable]
    decide
  have hfits : Shape.FitsAmounts (.list items) := by
    simp [items, Shape.FitsAmounts, Shape.FitsAmount, Fields.get?]
  have hno : ¬Shape.IsLedger (.list items) := by
    rw [← Shape.findings_eq_nil_iff]
    decide
  have hresult := loadTransactions_accepts s (s.withLedgerText (document (.list items)))
    (s.readText_document _) fun v hv => by
      cases hread.symm.trans hv
      exact hfits
  exact (hresult.2.1 _ hread).2 hno

/-- A ledger of one item, whose date is an integer of 4301 digits. -/
def longDate : Value := .list [.table [("id", .text "a"), ("date", .int (powerOfTen 4300))]]

/-- A ledger of one item, whose category is an information separator alone. -/
def separatorCategory : Value := .list [.table [("id", .text "a"), ("category", .text "\x1c")]]

/-- Not all ledgers are loaded, not all that is no ledger is rejected with findings, and not all
blank categories are dropped: integers can be too long, lists too deep, and an information separator
is space but not white. -/
theorem loadTransactions_at_limits :
    let s : Store := ⟨["data"]⟩
    (Shape.IsLedger longDate ∧ Shape.FitsAmounts longDate ∧
      ∀ ts, s.loadTransactions (s.withLedgerText (document longDate)) ≠ .ok ts) ∧
    s.loadTransactions (s.withLedgerText (String.ofList
      (List.replicate 5000 '[' ++ List.replicate 5000 ']'))) = .error .tooDeep ∧
    (Text.isBlank "\x1c" = true ∧
      s.loadTransactions (s.withLedgerText (document separatorCategory)) =
        .ok [⟨"a", "", some "", .zero, some "\x1c"⟩]) := by
  intro s
  refine ⟨⟨?_, ?_, fun ts hload => ?_⟩, ?_, by decide, ?_⟩
  · exact Shape.findings_eq_nil_iff.1 (by decide)
  · intro v hv
    rw [List.mem_singleton.1 hv]
    exact fun n hn => by cases hn
  · have hparse : (Json.parseAll (document longDate).toList).isOk = false := by
      rw [document, Json.render, String.toList_append, String.toList_ofList]
      decide +kernel
    obtain ⟨v, hread⟩ := exists_read_of_load (s.readText_document _) hload
    rw [Json.isOk_of_read hread] at hparse
    cases hparse
  · have hreturn : '\r' ∉ (String.ofList
        (List.replicate 5000 '[' ++ List.replicate 5000 ']')).toList := by
      rw [String.toList_ofList, List.mem_append, List.mem_replicate, List.mem_replicate]
      decide
    have hbrackets : List.replicate 5000 '[' ++ List.replicate 5000 ']' =
        List.replicate (Json.greatestDepth + 1) '[' ++
          (List.replicate 4029 '[' ++ List.replicate 5000 ']') := by
      rw [← List.append_assoc, ← List.replicate_add]
      rfl
    refine (loadTransactions_of_read_error (s.readText_withLedgerText hreturn)).2.2 ?_
    rw [hbrackets]
    exact Json.read_of_brackets _
  · have hvalue : readValue (s.withLedgerText (document separatorCategory)) s.transactionsFile =
        .ok separatorCategory := by
      refine readValue_document ⟨by decide, ?_⟩ (s.node?_withLedgerText _)
      simp only [Json.ReadableItems, Json.ReadableFields, Json.Readable]
      decide
    rw [loadTransactions_of_readText (s.readText_document _), readTransactions, hvalue]
    rfl

end Store

end SpendingLedger

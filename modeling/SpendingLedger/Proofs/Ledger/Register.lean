import Mathlib.Data.List.Forall2
import Mathlib.Data.List.Nodup
import SpendingLedger.Proofs.Ledger.Sound
import SpendingLedger.Proofs.Statement.Clean

/-!
# Ledgers as registers

A ledger whose ids differ is a register: an ordered finite map from ids to transactions.  To find
the first transaction with an id is then to look the id up, and each change of the ledger is a
change of the map: an addition binds a new id behind the others, an update binds a known one where
it stands, a deletion takes one binding away, and a new search for missing categories visits the
transactions that have none.  So it is for every sequence of changes, whether they succeed or fail.

## Main definitions

* `Statement.newId` — the id under which a record is added.
* `Ledger.Change`, `Ledger.change` — the changes of a ledger, one at a time.
* `Ledger.run` — a sequence of changes, of which those that fail change nothing.
* `Register` — the ordered finite maps, with `Register.change` saying what each change is to them.
* `Ledger.allSpare` — whether no change is about a transaction.
* `Transaction.IsKept` — what may become of a transaction then.

## Main results

* `Register.change_toLedger`, `Register.run_toLedger` — a change of a ledger is the change of its
  register, and so is a run of changes.
* `Ledger.kept_of_change`, `Ledger.kept_of_run` — what no change is about is kept, in order.
* `Ledger.run_eq_run_register` — **every run of changes is the run of the register.**
-/

namespace SpendingLedger

/-! ### The id of a new transaction -/

namespace Statement

/-- The id of the transaction of a record: the trimmed one that the record brings, or else the one
that is minted. -/
def newId (mint : Mint) (minted : Nat) (record : Fields Value) : Except Integer.TooLong String :=
  (ownId record).map fun own => if own.isEmpty then mint minted else own

variable {mint : Mint} {minted : Nat} {record : Fields Value}

theorem transaction_of_newId_error {e : Integer.TooLong}
    (h : newId mint minted record = .error e) :
    (transaction mint minted record).1 = .error (.integerTooLong e) := by
  unfold newId at h
  unfold transaction
  cases hown : ownId record with
  | error e' =>
    rw [hown] at h
    cases h
    rfl
  | ok own =>
    rw [hown] at h
    cases h

theorem transaction_of_newId {id : String} (h : newId mint minted record = .ok id) :
    (transaction mint minted record).1 = transactionNamed id record := by
  unfold newId at h
  unfold transaction
  cases hown : ownId record with
  | error e =>
    rw [hown] at h
    cases h
  | ok own =>
    rw [hown] at h
    cases h
    dsimp only
    split <;> rfl

end Statement

/-! ### Changes of ledgers -/

namespace Ledger

/-- A change of a ledger, with all that it depends on. -/
inductive Change
  | add (record : Fields Value) (d : CategoryDictionary) (threshold : Binary64) (mint : Mint)
      (minted : Nat)
  | update (updated : Transaction) (d : CategoryDictionary) (threshold : Binary64)
  | assign (id category : String)
  | delete (id : String)
  | recategorize (d : CategoryDictionary) (threshold : Binary64)

/-- Why a change fails. -/
inductive ChangeError
  | add (e : AddError)
  /-- The ledger has no transaction with the id. -/
  | unknownId (id : String)
  deriving DecidableEq

/-- What was made of the transaction with the id `id`, if there was one. -/
def changed {α : Type} (id : String) : Option α → Except ChangeError α
  | some a => .ok a
  | none => .error (.unknownId id)

/-- The ledger after a change. -/
def change : Change → Ledger → Except ChangeError Ledger
  | .add record d threshold mint minted, ledger =>
    ((ledger.add record d threshold mint minted).1.map Prod.fst).mapError .add
  | .update updated d threshold, ledger =>
    changed updated.id ((ledger.update updated d threshold).map Prod.fst)
  | .assign id category, ledger => changed id (ledger.assign id category)
  | .delete id, ledger => changed id (ledger.delete id)
  | .recategorize d threshold, ledger => .ok (ledger.recategorize d threshold).1

/-- What a sequence of changes comes to, and the error of each of them that fails.  One that fails
leaves the state as it is. -/
def run {State : Type} (change : Change → State → Except ChangeError State) :
    List Change → State → State × List (Option ChangeError)
  | [], s => (s, [])
  | c :: rest, s =>
    match change c s with
    | .ok next => ((run change rest next).1, none :: (run change rest next).2)
    | .error e => ((run change rest s).1, some e :: (run change rest s).2)

section

variable {State : Type} {change : Change → State → Except ChangeError State} {c : Change}
  {rest : List Change} {s next : State}

theorem run_cons_of_ok (h : change c s = .ok next) :
    run change (c :: rest) s = ((run change rest next).1, none :: (run change rest next).2) := by
  rw [run, h]

theorem run_cons_of_error {e : ChangeError} (h : change c s = .error e) :
    run change (c :: rest) s = ((run change rest s).1, some e :: (run change rest s).2) := by
  rw [run, h]

end

end Ledger

/-! ### Single changes -/

namespace Ledger

variable {ledger : Ledger} {record : Fields Value} {d : CategoryDictionary} {threshold : Binary64}
  {mint : Mint} {minted : Nat}

theorem add_of_error {e : Statement.RecordError}
    (h : (Statement.transaction mint minted record).1 = .error e) :
    (ledger.add record d threshold mint minted).1 = .error (.record e) := by
  unfold add
  cases hfound : Statement.transaction mint minted record with
  | mk found n =>
    rw [hfound] at h
    cases h
    rfl

theorem add_of_ok {t : Transaction} (h : (Statement.transaction mint minted record).1 = .ok t) :
    (ledger.add record d threshold mint minted).1 =
      if ledger.hasId t.id then .error (.idTaken t.id)
      else .ok (List.append ledger [categorize d threshold t], categorize d threshold t) := by
  unfold add
  cases hfound : Statement.transaction mint minted record with
  | mk found n =>
    rw [hfound] at h
    cases h
    dsimp only
    split <;> rfl

/-- A record that is added gives one more transaction at the end. -/
theorem append_of_add {after : Ledger} {t : Transaction}
    (h : (ledger.add record d threshold mint minted).1 = .ok (after, t)) :
    after = ledger ++ [t] := by
  cases hfound : (Statement.transaction mint minted record).1 with
  | error e =>
    rw [add_of_error hfound] at h
    cases h
  | ok u =>
    rw [add_of_ok hfound] at h
    split at h
    · cases h
    · cases h
      rfl

theorem map_fst_update {ledger : Ledger} {updated : Transaction} :
    (ledger.update updated d threshold).map Prod.fst =
      modifyFirst updated.id (fun _ => categorize d threshold updated) ledger := by
  unfold update
  rw [Option.map_map]
  exact Option.map_id'

/-- A transaction with an id is there, and a first one. -/
theorem exists_first {id : String} (h : id ∈ List.map Transaction.id ledger) :
    ∃ before t rest, ledger = before ++ t :: rest ∧ t.id = id ∧
      id ∉ List.map Transaction.id before := by
  induction ledger with
  | nil => exact absurd h List.not_mem_nil
  | cons u ledger ih =>
    by_cases hu : u.id = id
    · exact ⟨[], u, ledger, rfl, hu, List.not_mem_nil⟩
    · have hrest := (List.mem_cons.1 h).resolve_left (Ne.symm hu)
      obtain ⟨before, t, rest, rfl, ht, hbefore⟩ := ih hrest
      exact ⟨u :: before, t, rest, rfl, ht,
        List.not_mem_cons_of_ne_of_not_mem (Ne.symm hu) hbefore⟩

section

variable {id : String} {f : Transaction → Transaction} {before : Ledger}

/-- The search for an id passes over what does not have it. -/
theorem modifyFirst_append (hbefore : id ∉ List.map Transaction.id before) (rest : Ledger) :
    modifyFirst id f (before ++ rest) = (modifyFirst id f rest).map (before ++ ·) := by
  induction before with
  | nil => exact Option.map_id'.symm
  | cons u before ih =>
    obtain ⟨hu, hbefore⟩ := List.ne_and_not_mem_of_not_mem_cons hbefore
    rw [List.cons_append, modifyFirst, if_neg (Ne.symm hu), ih hbefore, Option.map_map]
    rfl

theorem deleteFirst_append (hbefore : id ∉ List.map Transaction.id before) (rest : Ledger) :
    deleteFirst id (before ++ rest) = (deleteFirst id rest).map (before ++ ·) := by
  induction before with
  | nil => exact Option.map_id'.symm
  | cons u before ih =>
    obtain ⟨hu, hbefore⟩ := List.ne_and_not_mem_of_not_mem_cons hbefore
    rw [List.cons_append, deleteFirst, if_neg (Ne.symm hu), ih hbefore, Option.map_map]
    rfl

theorem modifyFirst_at (hbefore : id ∉ List.map Transaction.id before) {t : Transaction}
    (ht : t.id = id) (rest : Ledger) :
    modifyFirst id f (before ++ t :: rest) = some (before ++ f t :: rest) := by
  rw [modifyFirst_append hbefore, modifyFirst, if_pos ht, Option.map_some]

theorem deleteFirst_at (hbefore : id ∉ List.map Transaction.id before) {t : Transaction}
    (ht : t.id = id) (rest : Ledger) :
    deleteFirst id (before ++ t :: rest) = some (before ++ rest) := by
  rw [deleteFirst_append hbefore, deleteFirst, if_pos ht, Option.map_some]

theorem modifyFirst_eq_none (h : id ∉ List.map Transaction.id ledger) :
    modifyFirst id f ledger = none := by
  rw [← List.append_nil ledger, modifyFirst_append h, modifyFirst, Option.map_none]

theorem deleteFirst_eq_none (h : id ∉ List.map Transaction.id ledger) :
    deleteFirst id ledger = none := by
  rw [← List.append_nil ledger, deleteFirst_append h, deleteFirst, Option.map_none]

end

theorem isPending_iff {t : Transaction} :
    t.isPending = true ↔
      t.category = none ∨ t.category = some "" ∨ t.category = some uncategorized := by
  unfold Transaction.isPending Transaction.isPendingName
  cases t.category <;> simp

theorem recategorizeOne_eq :
    recategorizeOne d threshold = fun t =>
      if t.category = none ∨ t.category = some "" ∨ t.category = some uncategorized then
        { t with category := some (resolve t.description d threshold).category }
      else t := by
  funext t
  simp only [recategorizeOne, isPending_iff]
  rfl

end Ledger

/-! ### Registers -/

/-- An ordered finite map from ids to transactions: the ids in order, and the transaction that each
is bound to. -/
structure Register where
  ids : List String
  entry : String → Option Transaction
  nodup : ids.Nodup
  mem_ids_iff : ∀ id, id ∈ ids ↔ (entry id).isSome
  id_entry : ∀ id t, entry id = some t → t.id = id

namespace Register

open Ledger (Change ChangeError)

/-- A transaction bound under its own id keeps every transaction under its own id. -/
theorem id_entry_update {entry : String → Option Transaction} {id : String}
    {bound : Option Transaction} (hentry : ∀ key t, entry key = some t → t.id = key)
    (hbound : ∀ t, bound = some t → t.id = id) (key : String) (t : Transaction)
    (h : Function.update entry id bound key = some t) : t.id = key := by
  by_cases hkey : key = id
  · rw [hkey, Function.update_self] at h
    rw [hkey, hbound t h]
  · rw [Function.update_of_ne hkey] at h
    exact hentry key t h

/-- The register with a new id bound behind the others. -/
def append (m : Register) (t : Transaction) (h : t.id ∉ m.ids) : Register where
  ids := m.ids ++ [t.id]
  entry := Function.update m.entry t.id (some t)
  nodup := m.nodup.append (List.nodup_singleton t.id) (by simpa using h)
  mem_ids_iff id := by
    by_cases hid : id = t.id
    · simp [hid]
    · simp [hid, m.mem_ids_iff id]
  id_entry := id_entry_update m.id_entry fun _ hu => by
    cases hu
    rfl

/-- The register with `f` applied to the transaction under one id, which stays where it is. -/
def modify (m : Register) (id : String) (f : Transaction → Transaction)
    (hf : ∀ t, t.id = id → (f t).id = id) : Register where
  ids := m.ids
  entry := Function.update m.entry id ((m.entry id).map f)
  nodup := m.nodup
  mem_ids_iff key := by
    by_cases hkey : key = id
    · simp [hkey, m.mem_ids_iff id]
    · simp [hkey, m.mem_ids_iff key]
  id_entry := id_entry_update m.id_entry fun _ hu => by
    obtain ⟨t, ht, rfl⟩ := Option.map_eq_some_iff.1 hu
    exact hf t (m.id_entry id t ht)

/-- The register without the binding of one id. -/
def erase (m : Register) (id : String) : Register where
  ids := m.ids.erase id
  entry := Function.update m.entry id none
  nodup := m.nodup.erase id
  mem_ids_iff key := by
    rw [m.nodup.mem_erase_iff]
    by_cases hkey : key = id
    · simp [hkey]
    · simp [hkey, m.mem_ids_iff key]
  id_entry := id_entry_update m.id_entry fun _ hu => by cases hu

/-- The register with `f` applied to every transaction. -/
def mapEntries (m : Register) (f : Transaction → Transaction) (hf : ∀ t, (f t).id = t.id) :
    Register where
  ids := m.ids
  entry id := (m.entry id).map f
  nodup := m.nodup
  mem_ids_iff id := by rw [Option.isSome_map, m.mem_ids_iff]
  id_entry id u hu := by
    obtain ⟨t, ht, rfl⟩ := Option.map_eq_some_iff.1 hu
    rw [hf t, m.id_entry id t ht]

/-- The register with the transaction of a record bound, if its id is not. -/
def add (m : Register) (record : Fields Value) (d : CategoryDictionary) (threshold : Binary64)
    (mint : Mint) (minted : Nat) : Except Ledger.AddError Register :=
  match Statement.newId mint minted record with
  | .error e => .error (.record (.integerTooLong e))
  | .ok id => match Statement.transactionNamed id record with
    | .error e => .error (.record e)
    | .ok t =>
      if h : id ∈ m.ids then .error (.idTaken id)
      else .ok (m.append
        { t with id, category := some (resolve t.description d threshold).category } h)

/-- What a change is to a register. -/
def change : Change → Register → Except ChangeError Register
  | .add record d threshold mint minted, m =>
    (m.add record d threshold mint minted).mapError .add
  | .update t d threshold, m =>
    if t.id ∈ m.ids then
      .ok (m.modify t.id
        (fun _ => { t with category := some (resolve t.description d threshold).category })
        fun _ _ => rfl)
    else .error (.unknownId t.id)
  | .assign id category, m =>
    if id ∈ m.ids then
      .ok (m.modify id (fun t => { t with category := some category }) fun _ h => h)
    else .error (.unknownId id)
  | .delete id, m => if id ∈ m.ids then .ok (m.erase id) else .error (.unknownId id)
  | .recategorize d threshold, m =>
    .ok (m.mapEntries
      (fun t =>
        if t.category = none ∨ t.category = some "" ∨ t.category = some uncategorized then
          { t with category := some (resolve t.description d threshold).category }
        else t)
      fun t => by split <;> rfl)

/-- The ledger of a register: its transactions in the order of the ids. -/
def toLedger (m : Register) : Ledger := m.ids.filterMap m.entry

/-- The register of a ledger whose ids differ. -/
def ofLedger (ledger : Ledger) (h : (List.map Transaction.id ledger).Nodup) : Register where
  ids := List.map Transaction.id ledger
  entry := ledger.find?
  nodup := h
  mem_ids_iff id := by simp [Ledger.find?, List.find?_isSome]
  id_entry id t ht := by simpa using List.find?_some ht

/-! ### Ledgers of registers -/

section

variable {ids : List String} {entry : String → Option Transaction}

theorem filterMap_update_of_not_mem {id : String} {bound : Option Transaction} (hid : id ∉ ids) :
    ids.filterMap (Function.update entry id bound) = ids.filterMap entry :=
  List.filterMap_congr fun _ hkey => Function.update_of_ne (ne_of_mem_of_not_mem hkey hid) _ _

theorem map_id_filterMap (h : ∀ key ∈ ids, ∃ t, entry key = some t ∧ t.id = key) :
    (ids.filterMap entry).map Transaction.id = ids := by
  induction ids with
  | nil => rfl
  | cons key ids ih =>
    obtain ⟨⟨t, ht, hid⟩, hrest⟩ := List.forall_mem_cons.1 h
    rw [List.filterMap_cons_some ht, List.map_cons, hid, ih hrest]

end

theorem exists_entry (m : Register) : ∀ id ∈ m.ids, ∃ t, m.entry id = some t ∧ t.id = id := by
  intro id hid
  obtain ⟨t, ht⟩ := Option.isSome_iff_exists.1 ((m.mem_ids_iff id).1 hid)
  exact ⟨t, ht, m.id_entry id t ht⟩

@[simp] theorem map_id_toLedger (m : Register) : List.map Transaction.id m.toLedger = m.ids :=
  map_id_filterMap m.exists_entry

/-- A known id divides a register, and its transaction is the first one with it in the ledger. -/
theorem exists_division (m : Register) {id : String} (h : id ∈ m.ids) :
    ∃ front back t, m.ids = front ++ id :: back ∧ (id ∉ front ∧ id ∉ back) ∧
      m.entry id = some t ∧ t.id = id ∧
      id ∉ List.map Transaction.id (front.filterMap m.entry) := by
  obtain ⟨front, back, hids⟩ := List.append_of_mem h
  obtain ⟨t, ht, hid⟩ := m.exists_entry id h
  -- the ids of the transactions in front are the front itself
  have hnodup := m.nodup
  rw [hids, List.nodup_middle, List.nodup_cons, List.mem_append, not_or] at hnodup
  have hfront : ∀ key ∈ front, ∃ t, m.entry key = some t ∧ t.id = key := fun key hkey =>
    m.exists_entry key (hids ▸ List.mem_append_left _ hkey)
  refine ⟨front, back, t, hids, hnodup.1, ht, hid, ?_⟩
  rw [map_id_filterMap hfront]
  exact hnodup.1.1

theorem modifyFirst_toLedger (m : Register) {id : String} {f : Transaction → Transaction}
    (hf : ∀ t, t.id = id → (f t).id = id) (h : id ∈ m.ids) :
    Ledger.modifyFirst id f m.toLedger = some (m.modify id f hf).toLedger := by
  obtain ⟨front, back, t, hids, ⟨hfront, hback⟩, ht, hid, hfirst⟩ := m.exists_division h
  have hbound : Function.update m.entry id ((m.entry id).map f) id = some (f t) := by
    rw [Function.update_self, ht, Option.map_some]
  show Ledger.modifyFirst id f (m.ids.filterMap m.entry) =
    some (m.ids.filterMap (Function.update m.entry id ((m.entry id).map f)))
  rw [hids, List.filterMap_append, List.filterMap_cons_some ht, Ledger.modifyFirst_at hfirst hid,
    List.filterMap_append, filterMap_update_of_not_mem hfront, List.filterMap_cons_some hbound,
    filterMap_update_of_not_mem hback]

theorem deleteFirst_toLedger (m : Register) {id : String} (h : id ∈ m.ids) :
    Ledger.deleteFirst id m.toLedger = some (m.erase id).toLedger := by
  obtain ⟨front, back, t, hids, ⟨hfront, hback⟩, ht, hid, hfirst⟩ := m.exists_division h
  have herase : m.ids.erase id = front ++ back := by
    rw [hids, List.erase_append_right _ hfront, List.erase_cons_head]
  show Ledger.deleteFirst id (m.ids.filterMap m.entry) =
    some ((m.ids.erase id).filterMap (Function.update m.entry id none))
  rw [herase, hids, List.filterMap_append, List.filterMap_cons_some ht,
    Ledger.deleteFirst_at hfirst hid, List.filterMap_append, filterMap_update_of_not_mem hfront,
    filterMap_update_of_not_mem hback]

theorem hasId_toLedger (m : Register) (id : String) :
    m.toLedger.hasId id = decide (id ∈ m.ids) := by
  rw [Bool.eq_iff_iff, decide_eq_true_eq, ← m.map_id_toLedger, List.mem_map]
  simp [Ledger.hasId]

theorem toLedger_append (m : Register) (t : Transaction) (h : t.id ∉ m.ids) :
    (m.append t h).toLedger = m.toLedger ++ [t] := by
  show (m.ids ++ [t.id]).filterMap (Function.update m.entry t.id (some t)) = _
  rw [List.filterMap_append, filterMap_update_of_not_mem h,
    List.filterMap_cons_some (Function.update_self ..), List.filterMap_nil]
  rfl

theorem toLedger_mapEntries (m : Register) (f : Transaction → Transaction)
    (hf : ∀ t, (f t).id = t.id) : (m.mapEntries f hf).toLedger = List.map f m.toLedger :=
  (List.map_filterMap ..).symm

/-- If ids differ, a transaction is the first one with its id. -/
theorem find?_of_mem {ledger : Ledger} (h : (List.map Transaction.id ledger).Nodup)
    {t : Transaction} (ht : t ∈ ledger) : ledger.find? t.id = some t := by
  induction ledger with
  | nil => exact absurd ht List.not_mem_nil
  | cons u ledger ih =>
    obtain ⟨hnew, hrest⟩ := List.nodup_cons.1 h
    rw [Ledger.find?]
    rcases List.mem_cons.1 ht with rfl | ht
    · exact List.find?_cons_of_pos (beq_self_eq_true t.id)
    · have hne : u.id ≠ t.id := fun heq => hnew (heq ▸ List.mem_map_of_mem ht)
      rw [List.find?_cons_of_neg (by simpa using hne)]
      exact ih hrest ht

/-- The ledger of the register of a ledger is that ledger. -/
theorem toLedger_ofLedger (ledger : Ledger) (h : (List.map Transaction.id ledger).Nodup) :
    (ofLedger ledger h).toLedger = ledger := by
  show (List.map Transaction.id ledger).filterMap ledger.find? = ledger
  rw [List.filterMap_map]
  calc List.filterMap (ledger.find? ∘ Transaction.id) ledger
      = List.filterMap some ledger := List.filterMap_congr fun t ht => find?_of_mem h ht
    _ = ledger := List.filterMap_some

/-! ### Changes and runs -/

theorem changed_modifyFirst (m : Register) (id : String) (f : Transaction → Transaction)
    (hf : ∀ t, t.id = id → (f t).id = id) :
    Ledger.changed id (Ledger.modifyFirst id f m.toLedger) =
      if id ∈ m.ids then .ok (m.modify id f hf).toLedger else .error (.unknownId id) := by
  split
  · next hid =>
    rw [m.modifyFirst_toLedger hf hid]
    rfl
  · next hid =>
    rw [Ledger.modifyFirst_eq_none (by rwa [m.map_id_toLedger])]
    rfl

theorem changed_deleteFirst (m : Register) (id : String) :
    Ledger.changed id (Ledger.deleteFirst id m.toLedger) =
      if id ∈ m.ids then .ok (m.erase id).toLedger else .error (.unknownId id) := by
  split
  · next hid =>
    rw [m.deleteFirst_toLedger hid]
    rfl
  · next hid =>
    rw [Ledger.deleteFirst_eq_none (by rwa [m.map_id_toLedger])]
    rfl

theorem add_toLedger (m : Register) (record : Fields Value) (d : CategoryDictionary)
    (threshold : Binary64) (mint : Mint) (minted : Nat) :
    (m.toLedger.add record d threshold mint minted).1.map Prod.fst =
      (m.add record d threshold mint minted).map toLedger := by
  unfold add
  cases hid : Statement.newId mint minted record with
  | error e =>
    rw [Ledger.add_of_error (Statement.transaction_of_newId_error hid)]
    rfl
  | ok id =>
    have hnamed := Statement.transaction_of_newId hid
    dsimp only
    cases ht : Statement.transactionNamed id record with
    | error e =>
      rw [Ledger.add_of_error (hnamed.trans ht)]
      rfl
    | ok t =>
      obtain ⟨rfl, -⟩ := Statement.of_transactionNamed ht
      rw [Ledger.add_of_ok (hnamed.trans ht), hasId_toLedger]
      by_cases hmem : t.id ∈ m.ids
      · rw [if_pos (decide_eq_true hmem)]
        simp only [hmem, dif_pos]
        rfl
      · rw [if_neg (by simpa using hmem)]
        simp only [hmem, dif_neg, not_false_eq_true]
        exact congrArg Except.ok (toLedger_append m (categorize d threshold t) hmem).symm

/-- A change of the ledger of a register is the change of the register. -/
theorem change_toLedger (c : Change) (m : Register) :
    Ledger.change c m.toLedger = (change c m).map toLedger := by
  cases c with
  | add record d threshold mint minted =>
    show Except.mapError _ ((m.toLedger.add record d threshold mint minted).1.map Prod.fst) = _
    rw [add_toLedger, change]
    cases m.add record d threshold mint minted <;> rfl
  | update t d threshold =>
    show Ledger.changed t.id ((Ledger.update m.toLedger t d threshold).map Prod.fst) = _
    rw [Ledger.map_fst_update,
      changed_modifyFirst m t.id (fun _ => categorize d threshold t) fun _ _ => rfl, change]
    split <;> rfl
  | assign id category =>
    show Ledger.changed id (Ledger.modifyFirst id (·.withCategory category) m.toLedger) = _
    rw [changed_modifyFirst m id (·.withCategory category) fun _ h => h, change]
    split <;> rfl
  | delete id =>
    show Ledger.changed id (Ledger.deleteFirst id m.toLedger) = _
    rw [changed_deleteFirst, change]
    split <;> rfl
  | recategorize d threshold =>
    show Except.ok (List.map (Ledger.recategorizeOne d threshold) m.toLedger) = _
    rw [Ledger.recategorizeOne_eq, change]
    exact congrArg Except.ok (toLedger_mapEntries m _ _).symm

/-- A run of changes of the ledger of a register is the run of the register. -/
theorem run_toLedger (changes : List Change) (m : Register) :
    Ledger.run Ledger.change changes m.toLedger =
      ((Ledger.run change changes m).1.toLedger, (Ledger.run change changes m).2) := by
  induction changes generalizing m with
  | nil => rfl
  | cons c rest ih =>
    have hstep := change_toLedger c m
    cases hc : change c m with
    | ok next =>
      rw [hc] at hstep
      rw [Ledger.run_cons_of_ok hstep, Ledger.run_cons_of_ok hc, ih]
    | error e =>
      rw [hc] at hstep
      rw [Ledger.run_cons_of_error hstep, Ledger.run_cons_of_error hc, ih]

end Register

/-! ### What no change is about -/

/-- Whether one transaction is the other, but for the category of one that has none. -/
def Transaction.IsKept (t u : Transaction) : Prop :=
  u = t ∨ t.isPending = true ∧ ∃ category, u = t.withCategory category

theorem Transaction.IsKept.id_eq {t u : Transaction} (h : t.IsKept u) : u.id = t.id := by
  rcases h with rfl | ⟨-, category, rfl⟩ <;> rfl

instance : Std.Refl Transaction.IsKept := ⟨fun _ => Or.inl rfl⟩

instance : IsTrans Transaction Transaction.IsKept where
  trans := by
    rintro t u v (rfl | ⟨hpending, category, rfl⟩) huv
    · exact huv
    · rcases huv with rfl | ⟨-, category', rfl⟩
      · exact Or.inr ⟨hpending, category, rfl⟩
      · exact Or.inr ⟨hpending, category', rfl⟩

namespace Ledger

/-- Whether a change is not about a transaction. -/
def Change.spares : Change → Transaction → Bool
  | .add .., _ => true
  | .update updated _ _, t => updated.id ≠ t.id
  | .assign id _, t => id ≠ t.id
  | .delete id, t => id ≠ t.id
  | .recategorize .., _ => true

/-- Whether no change of a list is about a transaction. -/
def allSpare (changes : List Change) (t : Transaction) : Bool := changes.all (·.spares t)

variable {ledger after : Ledger} {c : Change} {id : String}

theorem filter_append_sublist {before rest : Ledger} {t : Transaction} (ht : t.id = id) :
    (List.filter (fun u => id ≠ u.id) (before ++ t :: rest)).Sublist (before ++ rest) := by
  rw [List.filter_append, List.filter_cons_of_neg (by simpa using ht.symm)]
  exact List.filter_sublist.append List.filter_sublist

theorem filter_sublist_of_modifyFirst {f : Transaction → Transaction}
    (h : modifyFirst id f ledger = some after) :
    (List.filter (fun t => id ≠ t.id) ledger).Sublist after := by
  by_cases hid : id ∈ List.map Transaction.id ledger
  · obtain ⟨before, t, rest, rfl, ht, hbefore⟩ := exists_first hid
    rw [modifyFirst_at hbefore ht] at h
    cases h
    exact (filter_append_sublist ht).trans
      ((List.Sublist.refl before).append (List.sublist_cons_self (f t) rest))
  · rw [modifyFirst_eq_none hid] at h
    cases h

theorem filter_sublist_of_deleteFirst (h : deleteFirst id ledger = some after) :
    (List.filter (fun t => id ≠ t.id) ledger).Sublist after := by
  by_cases hid : id ∈ List.map Transaction.id ledger
  · obtain ⟨before, t, rest, rfl, ht, hbefore⟩ := exists_first hid
    rw [deleteFirst_at hbefore ht] at h
    cases h
    exact filter_append_sublist ht
  · rw [deleteFirst_eq_none hid] at h
    cases h

theorem changed_eq_ok {found : Option Ledger} (h : changed id found = .ok after) :
    found = some after := by
  cases found with
  | none => cases h
  | some _ => rw [Except.ok.inj h]

theorem isKept_recategorizeOne (d : CategoryDictionary) (threshold : Binary64) (t : Transaction) :
    t.IsKept (recategorizeOne d threshold t) := by
  unfold recategorizeOne
  split
  · next hpending => exact Or.inr ⟨hpending, _, rfl⟩
  · exact Or.inl rfl

/-- A change keeps, in order, the transactions that it is not about. -/
theorem kept_of_change (h : change c ledger = .ok after) :
    List.SublistForall₂ Transaction.IsKept (List.filter c.spares ledger) after := by
  cases c with
  | add record d threshold mint minted =>
    change ((ledger.add record d threshold mint minted).1.map Prod.fst).mapError _ = _ at h
    cases hadd : (ledger.add record d threshold mint minted).1 with
    | error e =>
      rw [hadd] at h
      cases h
    | ok added =>
      rw [hadd] at h
      cases h
      rw [append_of_add hadd]
      exact (List.filter_sublist.trans (List.sublist_append_left ledger _)).sublistForall₂
  | update updated d threshold =>
    have hupdate := changed_eq_ok h
    rw [map_fst_update] at hupdate
    exact (filter_sublist_of_modifyFirst hupdate).sublistForall₂
  | assign id category => exact (filter_sublist_of_modifyFirst (changed_eq_ok h)).sublistForall₂
  | delete id => exact (filter_sublist_of_deleteFirst (changed_eq_ok h)).sublistForall₂
  | recategorize d threshold =>
    -- every transaction stays in its place, and what becomes of it is a relation of its own
    rw [← Except.ok.inj h]
    have : Std.Refl fun t u : Transaction => t.IsKept (recategorizeOne d threshold u) :=
      ⟨isKept_recategorizeOne d threshold⟩
    exact List.sublistForall₂_map_right_iff.2 List.filter_sublist.sublistForall₂

/-- Changes go by the id alone, which a transaction that is kept does not lose. -/
theorem allSpare_of_isKept {t u : Transaction} (changes : List Change) (h : t.IsKept u) :
    allSpare changes u = allSpare changes t := by
  have hspares : ∀ c : Change, c.spares u = c.spares t := by
    intro c
    cases c <;> simp only [Change.spares, h.id_eq]
  simp only [allSpare, hspares]

theorem kept_filter_allSpare (changes : List Change)
    (h : List.SublistForall₂ Transaction.IsKept ledger after) :
    List.SublistForall₂ Transaction.IsKept (List.filter (allSpare changes) ledger)
      (List.filter (allSpare changes) after) := by
  induction h with
  | nil => exact .nil
  | cons hkept _ ih =>
    rw [List.filter_cons, List.filter_cons, allSpare_of_isKept changes hkept]
    split
    · exact .cons hkept ih
    · exact ih
  | cons_right _ ih =>
    rw [List.filter_cons]
    split
    · exact .cons_right ih
    · exact ih

/-- A run keeps, in order, the transactions that none of its changes is about. -/
theorem kept_of_run (changes : List Change) (ledger : Ledger) :
    List.SublistForall₂ Transaction.IsKept (List.filter (allSpare changes) ledger)
      (run change changes ledger).1 := by
  induction changes generalizing ledger with
  | nil => exact List.filter_sublist.sublistForall₂
  | cons c rest ih =>
    have hfilter : List.filter (allSpare (c :: rest)) ledger =
        List.filter (allSpare rest) (List.filter c.spares ledger) := by
      rw [List.filter_filter]
      exact List.filter_congr fun t _ => Bool.and_comm ..
    cases hc : change c ledger with
    | ok next =>
      -- what the first change keeps is spared by the others as it was before
      rw [run_cons_of_ok hc, hfilter]
      exact IsTrans.trans _ _ _ (kept_filter_allSpare rest (kept_of_change hc)) (ih next)
    | error e =>
      rw [run_cons_of_error hc, hfilter]
      exact IsTrans.trans _ _ _ (List.filter_sublist.filter _).sublistForall₂ (ih ledger)

/-- **Ledgers are registers.**  Whatever is changed in a ledger whose ids differ, and whichever of
the changes fail, they come to what they come to in its register, with the same errors; the ids
still differ, and the transactions that no change is about are there in their old order, as they
were but for the category of those that had none. -/
theorem run_eq_run_register (h : (List.map Transaction.id ledger).Nodup) (changes : List Change) :
    run change changes ledger =
        ((run Register.change changes (Register.ofLedger ledger h)).1.toLedger,
          (run Register.change changes (Register.ofLedger ledger h)).2) ∧
      (List.map Transaction.id (run change changes ledger).1).Nodup ∧
      List.SublistForall₂ Transaction.IsKept (List.filter (allSpare changes) ledger)
        (run change changes ledger).1 := by
  have hrun := Register.run_toLedger changes (Register.ofLedger ledger h)
  rw [Register.toLedger_ofLedger] at hrun
  refine ⟨hrun, ?_, kept_of_run changes ledger⟩
  rw [hrun, Register.map_id_toLedger]
  exact Register.nodup _

/-- Of four changes the first brings an id that is taken, once it is trimmed, and the third is about
an id that is not there; the others add a transaction under a minted id and delete one. -/
theorem run_eq_run_register_two_entries :
    ∃ first second added : Transaction,
      (List.map Transaction.id [first, second]).Nodup ∧
      run change
          [.add [("id", .text " 2 ")] ⟨[], by decide⟩ .zero (fun _ => "m") 0,
            .add [("description", .text "tea")] ⟨[], by decide⟩ .zero (fun _ => "m") 0,
            .assign "3" "Food", .delete "1"]
          [first, second] =
        ([second, added], [some (.add (.idTaken "2")), none, some (.unknownId "3"), none]) := by
  have hnodup : (List.map Transaction.id
      [{ id := "1", date := "2025-01-31", description := some "gas", amount := .zero },
        { id := "2", date := "2025-02-01", description := some "rail", amount := .zero }]).Nodup :=
    by decide
  refine ⟨_, _, ?_, hnodup, (run_eq_run_register hnodup _).1.trans ?_⟩
  · exact { id := "m", date := "", description := some "tea", amount := .zero,
            category := some uncategorized }
  · rfl

end Ledger

end SpendingLedger

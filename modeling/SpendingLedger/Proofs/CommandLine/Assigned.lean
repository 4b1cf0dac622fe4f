import SpendingLedger.Proofs.CommandLine.Changes
import SpendingLedger.Proofs.Ledger.Register

/-!
# Categories given by hand

A category that a transaction was given by hand is kept through imports, additions, new searches for
missing categories and changes of other transactions, and through every command that fails.  Only
three commands that are about the transaction itself, and end well, do away with it: another
assignment, a deletion and an edit.  An edit does so whatever it changes, for it looks for the
category again.

## Main definitions

* `Store.category?` — the category that is stored for an id.
* `Command.isAbout` — the commands that are about a transaction.
* `IsLastingName` — the names that can be stored as a category.
* `Sparing` — the worlds that are reached while no such command ends well.

## Main results

* `Rewrites.find?_eq_some` — a command that is not about a transaction leaves it as it is.
* `category?_run` — **one command keeps a category.**
* `category?_of_sparing` — **a category that was given by hand is kept.**
-/

namespace SpendingLedger

open Text (Trimmed isWhite)

/-! ### Stored categories -/

namespace Store

/-- The category that is stored for the transaction with an id, none if there is no such
transaction or it has none. -/
def category? (s : Store) (d : Disk) (id : String) : Option String :=
  (s.loadTransactions d).toOption.bind fun ledger =>
    (Ledger.find? ledger id).bind Transaction.category

variable {s : Store} {d d' : Disk} {id c : String}

theorem category?_eq_some_iff :
    s.category? d id = some c ↔
      ∃ ledger t, s.loadTransactions d = .ok ledger ∧ Ledger.find? ledger id = some t ∧
        t.category = some c := by
  unfold category?
  cases s.loadTransactions d with
  | error e =>
    refine iff_of_false (by rintro ⟨⟩) ?_
    rintro ⟨ledger, t, ⟨⟩, -⟩
  | ok ledger =>
    change (Ledger.find? ledger id).bind Transaction.category = some c ↔ _
    constructor
    · intro h
      obtain ⟨t, ht, hc⟩ := Option.bind_eq_some_iff.1 h
      exact ⟨ledger, t, rfl, ht, hc⟩
    · rintro ⟨ledger', t, hledger, ht, hc⟩
      cases hledger
      exact Option.bind_eq_some_iff.2 ⟨t, ht, hc⟩

/-- Without a file there is no transaction. -/
theorem exists_node?_of_category? (h : s.category? d id = some c) :
    ∃ n, d.node? s.transactionsFile = some n := by
  obtain ⟨ledger, t, hload, ht, -⟩ := category?_eq_some_iff.1 h
  cases hn : d.node? s.transactionsFile with
  | some n => exact ⟨n, rfl⟩
  | none =>
    unfold loadTransactions at hload
    split at hload
    · cases hload
    · next hthere => exact absurd hthere (Disk.exists?_ne_true hn)
    · cases hload
      cases ht

/-- A category is stored in the file of the ledger alone. -/
theorem category?_congr (hsame : d'.node? s.transactionsFile = d.node? s.transactionsFile)
    (h : s.category? d id = some c) : s.category? d' id = some c := by
  obtain ⟨n, hn⟩ := exists_node?_of_category? h
  have hload : s.loadTransactions d' = s.loadTransactions d := by
    rw [loadTransactions_of_some hn, loadTransactions_of_some (hsame.trans hn), readTransactions,
      readTransactions, readValue_congr hn (hsame.trans hn)]
  rw [category?, hload]
  exact h

/-- A category without white space at its ends is loaded as it was saved. -/
theorem category?_of_file {ledger : Ledger} (hclean : ∀ t ∈ ledger, t.IsClean)
    (hfile : d.node? s.transactionsFile =
      some (.file (.text (document (Shape.ofTransactions ledger)))))
    {t : Transaction} (ht : Ledger.find? ledger id = some t) (hc : t.category = some c)
    (hne : c ≠ "") (htrimmed : Trimmed isWhite c.toList) : s.category? d id = some c := by
  have hload := loadTransactions_of_file (fun u hu => (hclean u hu).id_not_blank) hfile
  refine category?_eq_some_iff.2 ⟨_, t.settled, hload, ?_, ?_⟩
  · rw [Ledger.find?_settled hclean, ht]
    rfl
  · rw [Transaction.settled, hc, Option.bind_some, Shape.trimWhite_of_trimmed htrimmed,
      if_neg hne]

end Store

namespace CommandLine

/-! ### Commands about other transactions -/

/-- Whether a command is about the transaction with an id: it gives it a category, changes it or
removes it. -/
def Command.isAbout (id : String) : Command → Bool
  | .assign other _ => other = id
  | .edit other .. => other = id
  | .delete other => other = id
  | _ => false

variable {s : Settings} {d : Disk} {ledger changed : Ledger} {c : Command} {id : String}

/-- A clean ledger is rewritten as a clean one. -/
theorem Rewrites.isClean (h : Rewrites s d ledger c changed) (hledger : ∀ t ∈ ledger, t.IsClean) :
    ∀ t ∈ changed, t.IsClean := by
  have hextended : ∀ (dictionary : CategoryDictionary) (incoming : List Transaction),
      (∀ t ∈ incoming, t.IsClean) → ∀ t ∈ extendedLedger s dictionary ledger incoming,
        t.IsClean := by
    intro dictionary incoming hincoming t ht
    rcases List.mem_append.1 ht with ht | ht
    · exact hledger t ht
    · obtain ⟨u, hu, rfl⟩ := List.mem_map.1 ht
      exact Transaction.isClean_withCategory (hincoming u hu) _
  cases h with
  | imported _ _ hclean => exact hextended _ _ hclean
  | added _ _ hclean =>
    exact hextended _ _ fun t ht => (List.mem_singleton.1 ht) ▸ hclean
  | recategorized =>
    intro t ht
    obtain ⟨u, hu, rfl⟩ := List.mem_map.1 ht
    unfold Ledger.recategorizeOne
    split
    · exact Transaction.isClean_withCategory (hledger u hu) _
    · exact hledger u hu
  | assigned _ _ hchanged =>
    exact Ledger.forall_of_modifyFirst hchanged hledger fun t ht _ =>
      Transaction.isClean_withCategory (hledger t ht) _
  | edited _ hchanged _ hclean =>
    rw [Ledger.map_fst_update] at hchanged
    exact Ledger.forall_of_modifyFirst hchanged hledger fun _ _ _ =>
      Transaction.isClean_withCategory hclean _
  | deleted hchanged =>
    exact fun t ht => hledger t ((Ledger.sublist_of_deleteFirst hchanged).subset ht)

/-- A command that is not about a transaction with a category leaves it as it is. -/
theorem Rewrites.find?_eq_some (h : Rewrites s d ledger c changed) (hc : c.isAbout id = false)
    {t : Transaction} (ht : ledger.find? id = some t) (hcategory : t.isPending = false) :
    changed.find? id = some t := by
  cases h with
  | imported => exact Ledger.find?_append_of_some ht _
  | added => exact Ledger.find?_append_of_some ht _
  | recategorized => exact Ledger.find?_recategorize ht hcategory _ _
  | assigned _ _ hchanged =>
    have hid := of_decide_eq_false hc
    rw [Ledger.find?_modifyFirst hchanged fun u hu => hu, if_neg (Ne.symm hid)]
    exact ht
  | edited _ hchanged hupdated _ =>
    have hid := of_decide_eq_false hc
    rw [Ledger.map_fst_update, hupdated] at hchanged
    rw [Ledger.find?_modifyFirst hchanged fun _ _ => hupdated, if_neg (Ne.symm hid)]
    exact ht
  | deleted hchanged =>
    have hid := of_decide_eq_false hc
    rw [Ledger.find?_deleteFirst hchanged (Ne.symm hid)]
    exact ht

/-! ### One command -/

/-- The names that can be stored as a category: neither empty nor the one that stands for none, and
without white space at the ends. -/
structure IsLastingName (name : String) : Prop where
  not_empty : name ≠ ""
  not_reserved : name ≠ uncategorized
  trimmed : Trimmed isWhite name.toList

variable {w : World} {name : String}

/-- One command keeps a category, unless it is about the transaction and ends well. -/
theorem category?_run (hmint : s.mint.IsHexadecimal) (hname : IsLastingName name)
    (hspares : c.isAbout id = true → (c.run s w).ending ≠ .done)
    (h : s.store.category? w.disk id = some name) :
    s.store.category? (c.run s w).world.disk id = some name := by
  rcases follows_run hmint w c with ⟨hfile, -⟩ | ⟨hload, hchange, hdone, hfile⟩
  · exact Store.category?_congr hfile h
  · obtain ⟨ledger, t, hload', ht, hcategory⟩ := Store.category?_eq_some_iff.1 h
    rw [hload] at hload'
    cases hload'
    have hother : c.isAbout id = false := Bool.eq_false_iff.2 fun habout => hspares habout hdone
    -- a search for missing categories passes over this one
    have hpending : t.isPending = false := by
      rw [Bool.eq_false_iff, Ne, Ledger.isPending_iff, hcategory]
      rintro (hnone | hempty | hreserved)
      · cases hnone
      · exact hname.not_empty (Option.some.inj hempty)
      · exact hname.not_reserved (Option.some.inj hreserved)
    exact Store.category?_of_file (hchange.isClean (Store.isClean_of_load hload)) hfile
      (hchange.find?_eq_some hother ht hpending) hcategory hname.not_empty hname.trimmed

/-- The category that is stored by an assignment that ends well. -/
theorem category?_assign {category : String} {dictionary : CategoryDictionary}
    {entry : CategoryEntry} (hdictionary : s.store.loadDictionary w.disk = .ok dictionary)
    (hentry : dictionary.find? category = some entry) (hname : IsLastingName entry.name)
    (hdone : ((Command.assign id category).run s w).ending = .done) :
    s.store.category? ((Command.assign id category).run s w).world.disk id =
      some entry.name := by
  rcases @follows_runAssign s w id category with ⟨-, hrest⟩ | ⟨hload, hchange, -, hfile⟩
  · cases hrest hdone
  · have hclean := hchange.isClean (Store.isClean_of_load hload)
    cases hchange with
    | recategorized hc => cases hc
    | assigned hdictionary' hentry' hchanged =>
      rw [hdictionary] at hdictionary'
      cases hdictionary'
      rw [hentry] at hentry'
      cases hentry'
      obtain ⟨t, ht⟩ := Ledger.exists_find?_of_modifyFirst hchanged
      refine Store.category?_of_file hclean hfile ?_ (Transaction.category_withCategory t _)
        hname.not_empty hname.trimmed
      rw [Ledger.find?_modifyFirst hchanged fun u hu => hu, if_pos rfl, ht]
      rfl

/-! ### A dictionary with unusual names -/

/-- A dictionary with names that no command gives, and with some keywords for "Gas". -/
def oddDictionary (keywords : List String) : CategoryDictionary :=
  ⟨[⟨"Coffee", []⟩, ⟨"Gas", keywords⟩, ⟨uncategorized, []⟩, ⟨"", []⟩],
    (by decide : ["Coffee", "Gas", uncategorized, ""].Nodup)⟩

/-- A transaction with the description "Shell". -/
def shell (category : Option String) : Transaction :=
  ⟨"1", "2025-01-31", some "Shell", .zero, category⟩

/-- A world with this transaction and this dictionary in store. -/
def shellWorld : World where
  disk :=
    { entries := [(["data"], .directory),
        (plainSettings.store.transactionsFile, .file (.text (Store.document
          (Shape.ofTransactions [shell none])))),
        (plainSettings.store.dictionaryFile, .file (.text (Store.document
          (Shape.ofDictionary (oddDictionary ["shell"])))))] }
  minted := 0

/-- The worlds in which the transaction has a category. -/
structure IsShellWorld (category : String) (w : World) : Prop where
  disk_eq : w.disk =
    (plainSettings.store.saveTransactions shellWorld.disk [shell (some category)]).1
  ledger_loads : plainSettings.store.loadTransactions w.disk =
    .ok [(shell (some category)).settled]
  dictionary_loads : plainSettings.store.loadDictionary w.disk = .ok (oddDictionary ["shell"])

theorem loads_shellWorld :
    plainSettings.store.loadTransactions shellWorld.disk = .ok [shell none] ∧
      plainSettings.store.loadDictionary shellWorld.disk = .ok (oddDictionary ["shell"]) := by
  constructor
  · have hid : ∀ t ∈ [shell none], Text.isBlank t.id = false := by decide
    rw [Store.loadTransactions_of_file hid rfl]
    decide
  · exact Store.loadDictionary_of_file rfl

/-- This transaction with another date, under the category that is found for it. -/
def redatedShell : Transaction := { shell (some "Gas") with date := "2025-02-01" }

/-- An assignment to the transaction. -/
def assigned (category : String) : Outcome :=
  (Command.assign "1" category).run plainSettings shellWorld

/-- A keyword is added that the description of the transaction does not hold. -/
def taught (w : World) : Outcome := (Command.addKeyword "Gas" "petrol").run plainSettings w

/-- A world with the dictionary of that keyword. -/
def withPetrol (w : World) : World :=
  { w with
    disk := (plainSettings.store.saveDictionary w.disk (oddDictionary ["shell", "petrol"])).1 }

/-- An edit of the date of the transaction. -/
def redated (w : World) : Outcome :=
  (Command.edit "1" (some "2025-02-01") none none).run plainSettings w

theorem isShellWorld_assigned {category : String} {entry : CategoryEntry}
    (hentry : (oddDictionary ["shell"]).find? category = some entry)
    (hsaved : (plainSettings.store.saveTransactions shellWorld.disk
      [shell (some entry.name)]).2 = none) :
    (assigned category).ending = .done ∧ IsShellWorld entry.name (assigned category).world := by
  obtain ⟨hledger, hdictionary⟩ := loads_shellWorld
  have hchanged : Ledger.assign [shell none] "1" entry.name = some [shell (some entry.name)] := rfl
  obtain ⟨reports, rest, heq⟩ := exists_run_assign_eq hledger hdictionary hentry hchanged
  have hone : Text.isBlank "1" = false := by decide
  have hid : ∀ t ∈ [shell (some entry.name)], Text.isBlank t.id = false :=
    List.forall_mem_singleton.2 hone
  rw [assigned, heq]
  refine ⟨ending_saveLedger_eq_done_iff.2 hsaved, disk_saveLedger _ _ _ _ _,
    loadTransactions_saveLedger hid hsaved, Store.loadDictionary_of_file ?_⟩
  rw [disk_saveLedger, Store.node?_dictionaryFile_saveTransactions]
  rfl

theorem exists_taught_eq {category : String} (h : IsShellWorld category w)
    (hsaved : (plainSettings.store.saveDictionary (plainSettings.store.saveTransactions
      shellWorld.disk [shell (some category)]).1 (oddDictionary ["shell", "petrol"])).2 = none) :
    ∃ reports rest, taught w =
      if (Ledger.recategorize [(shell (some category)).settled] (oddDictionary ["shell", "petrol"])
        plainSettings.threshold).2 = 0 then (withPetrol w).done reports
      else plainSettings.saveLedger (withPetrol w) reports
        (Ledger.recategorize [(shell (some category)).settled] (oddDictionary ["shell", "petrol"])
          plainSettings.threshold).1 rest := by
  have hextended : (oddDictionary ["shell"]).addKeyword "Gas" "petrol" =
      .ok (oddDictionary ["shell", "petrol"]) := by decide +kernel
  rw [← h.disk_eq] at hsaved
  rw [taught, run_addKeyword_eq h.dictionary_loads hextended]
  exact exists_saveDictionary_eq h.ledger_loads hsaved

/-! ### All commands -/

/-- The worlds that commands lead to from `w` without one that is about the transaction and ends
well.  Between two commands anything may change but for the file of the ledger. -/
inductive Sparing (store : Store) (id : String) (w : World) : World → Prop
  | start : Sparing store id w w
  | command {w' : World} {s : Settings} (c : Command) (h : Sparing store id w w')
    (hstore : s.store = store) (hmint : s.mint.IsHexadecimal)
    (hspares : c.isAbout id = true → (c.run s w').ending ≠ .done) :
    Sparing store id w (c.run s w').world
  | elsewhere {w' w'' : World} (h : Sparing store id w w')
    (hsame : w''.disk.node? store.transactionsFile = w'.disk.node? store.transactionsFile) :
    Sparing store id w w''

theorem category?_of_sparing_of_eq_some {store : Store} {w' : World} (hname : IsLastingName name)
    (h : store.category? w.disk id = some name) (hrun : Sparing store id w w') :
    store.category? w'.disk id = some name := by
  induction hrun with
  | start => exact h
  | command c _ hstore hmint hspares ih =>
    subst hstore
    exact category?_run hmint hname hspares ih
  | elsewhere _ hsame ih => exact Store.category?_congr hsame ih

/-- **A category that was given by hand is kept.**  After an assignment that ended well, under a
name that is neither empty nor the one that stands for no category, the category is stored in every
world that is reached before a command assigns, edits or deletes the transaction and ends well. -/
theorem category?_of_sparing {w' : World} {category : String} {dictionary : CategoryDictionary}
    {entry : CategoryEntry} (hdictionary : s.store.loadDictionary w.disk = .ok dictionary)
    (hentry : dictionary.find? category = some entry) (hempty : entry.name ≠ "")
    (hreserved : entry.name ≠ uncategorized)
    (hdone : ((Command.assign id category).run s w).ending = .done)
    (hrun : Sparing s.store id ((Command.assign id category).run s w).world w') :
    s.store.category? w'.disk id = some entry.name := by
  have hname : IsLastingName entry.name :=
    ⟨hempty, hreserved, CategoryDictionary.trimmed_of_find? hentry⟩
  exact category?_of_sparing_of_eq_some hname
    (category?_assign hdictionary hentry hname hdone) hrun

/-- The transaction is given the category "Coffee", and then another keyword is added. -/
theorem category?_of_sparing_addKeyword :
    (assigned " COFFEE ").ending = .done ∧ (taught (assigned " COFFEE ").world).ending = .done ∧
      plainSettings.store.category? (taught (assigned " COFFEE ").world).world.disk "1" =
        some "Coffee" := by
  have hentry : (oddDictionary ["shell"]).find? " COFFEE " = some ⟨"Coffee", []⟩ := by
    decide +kernel
  obtain ⟨hassigned, hshell⟩ := isShellWorld_assigned hentry (by decide +kernel)
  have htaught : (taught (assigned " COFFEE ").world).ending = .done := by
    obtain ⟨reports, rest, heq⟩ := exists_taught_eq hshell (by decide +kernel)
    rw [heq, if_pos (by decide +kernel)]
    rfl
  exact ⟨hassigned, htaught, category?_of_sparing loads_shellWorld.2 hentry (by decide)
    (by decide) hassigned
    (.command (.addKeyword "Gas" "petrol") .start rfl isHexadecimal_plainSettings nofun)⟩

/-- An edit of the date alone looks for the category again.  And names that stand for no category,
which no command gives but a dictionary may have, are not kept: the transaction gets another
category with the next keyword, or it has none. -/
theorem category?_replaced :
    ((assigned "Coffee").ending = .done ∧ (redated (assigned "Coffee").world).ending = .done ∧
      plainSettings.store.category? (redated (assigned "Coffee").world).world.disk "1" =
        some "Gas") ∧
    ((assigned uncategorized).ending = .done ∧
      (taught (assigned uncategorized).world).ending = .done ∧
      plainSettings.store.category? (taught (assigned uncategorized).world).world.disk "1" =
        some "Gas") ∧
    (assigned "").ending = .done ∧
      plainSettings.store.category? (assigned "").world.disk "1" = none := by
  refine ⟨?edited, ?taught, ?empty⟩
  case edited =>
    have hentry : (oddDictionary ["shell"]).find? "Coffee" = some ⟨"Coffee", []⟩ := by
      decide +kernel
    obtain ⟨hassigned, hshell⟩ := isShellWorld_assigned hentry (by decide +kernel)
    have hcurrent : Ledger.find? [(shell (some "Coffee")).settled] "1" =
        some (shell (some "Coffee")).settled := by decide +kernel
    have hdate : isoDate? "2025-02-01" = some "2025-02-01" := by decide +kernel
    have hupdate : Ledger.update [(shell (some "Coffee")).settled]
        { (shell (some "Coffee")).settled with date := "2025-02-01" } (oddDictionary ["shell"])
        plainSettings.threshold = some ([redatedShell], redatedShell) := by decide +kernel
    have hsaved : (plainSettings.store.saveTransactions (assigned "Coffee").world.disk
        [redatedShell]).2 = none := by
      rw [hshell.disk_eq]
      decide +kernel
    obtain ⟨reports, rest, heq⟩ :=
      exists_run_edit_eq hshell.ledger_loads hshell.dictionary_loads hcurrent hdate hupdate
    rw [redated, heq, Store.category?, loadTransactions_saveLedger (by decide) hsaved]
    exact ⟨hassigned, ending_saveLedger_eq_done_iff.2 hsaved, by decide +kernel⟩
  case taught =>
    have hentry : (oddDictionary ["shell"]).find? uncategorized = some ⟨uncategorized, []⟩ := by
      decide +kernel
    obtain ⟨hassigned, hshell⟩ := isShellWorld_assigned hentry (by decide +kernel)
    obtain ⟨reports, rest, heq⟩ := exists_taught_eq hshell (by decide +kernel)
    have hfound : Ledger.recategorize [(shell (some uncategorized)).settled]
        (oddDictionary ["shell", "petrol"]) plainSettings.threshold =
          ([shell (some "Gas")], 1) := by decide +kernel
    rw [hfound, if_neg one_ne_zero] at heq
    have hsaved : (plainSettings.store.saveTransactions
        (withPetrol (assigned uncategorized).world).disk [shell (some "Gas")]).2 = none := by
      rw [withPetrol, hshell.disk_eq]
      decide +kernel
    rw [heq, Store.category?, loadTransactions_saveLedger (by decide) hsaved]
    exact ⟨hassigned, ending_saveLedger_eq_done_iff.2 hsaved, by decide +kernel⟩
  case empty =>
    have hentry : (oddDictionary ["shell"]).find? "" = some ⟨"", []⟩ := by decide +kernel
    obtain ⟨hassigned, hshell⟩ := isShellWorld_assigned hentry (by decide +kernel)
    have hnone : plainSettings.store.category? (assigned "").world.disk "1" = none := by
      rw [Store.category?, hshell.ledger_loads]
      decide +kernel
    exact ⟨hassigned, hnone⟩

end CommandLine

end SpendingLedger

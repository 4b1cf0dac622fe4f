import SpendingLedger.CommandLine.Run
import SpendingLedger.Proofs.CommandLine.Refusal
import SpendingLedger.Proofs.Number.Digits
import SpendingLedger.Proofs.Number.Spelling
import SpendingLedger.Proofs.Query.Select
import SpendingLedger.Proofs.Store.Transactions
import SpendingLedger.Proofs.Text.Terminal

/-!
# The lines of a search

A search prints the transactions that it finds in the order of the ledger, five fields each, with
tabs between the fields and a line feed behind the last one; an empty line and the totals follow.
Nothing is done about a tab or a line feed inside a field, and control sequences are printed for a
terminal only.  What is printed can be read back as the fields exactly if every field fits its line.
Amounts always do.

## Main definitions

* `Text.readTable` — the rows of a text, one a line, with their cells between tabs.
* `lineFields` — the fields of a transaction.
* `printed`, `listing` — what reports print, and what the transactions of a search print.
* `FitsLine` — the fields that are printed as they are on one line between tabs.

## Main results

* `readTable_listing` — the cells of printed transactions, if no field has a tab or a line feed.
* `readTable_listing_eq_iff` — when printed transactions read as their fields.
* `search_prints_listing` — **what a search prints, and when it reads as the fields of what was
  found.**
-/

namespace SpendingLedger

/-! ### Tables -/

namespace Text

/-- The rows of a text: its lines, each ended by a line feed, cut at tabs. -/
def readTable (text : String) : List (List String) :=
  (pieces (· == '\n') text.toList).dropLast.map fun line =>
    (pieces (· == '\t') line).map String.ofList

/-- No tab and no line feed stands in a cell. -/
theorem notMem_of_mem_readTable {text s : String} {row : List String} (hrow : row ∈ readTable text)
    (hs : s ∈ row) : '\t' ∉ s.toList ∧ '\n' ∉ s.toList := by
  obtain ⟨line, hline, rfl⟩ := List.mem_map.1 hrow
  obtain ⟨cell, hcell, rfl⟩ := List.mem_map.1 hs
  rw [String.toList_ofList]
  constructor
  · intro htab
    have hfalse := eq_false_of_mem_pieces hcell _ htab
    simp at hfalse
  · intro hfeed
    obtain ⟨left, right, rfl, -, -⟩ := exists_of_mem_pieces hcell
    have hfalse := eq_false_of_mem_pieces (List.dropLast_subset _ hline) '\n' (by simp [hfeed])
    simp at hfalse

/-- The lines of a text are its rows if they hold no line feed. -/
theorem readTable_of_lines {text : String} {lines : List (List Char)}
    (htext : text.toList = lines.flatMap (· ++ ['\n'])) (hlines : ∀ line ∈ lines, '\n' ∉ line) :
    readTable text = lines.map fun line => (pieces (· == '\t') line).map String.ofList := by
  have hfeed : ∀ line ∈ lines, ∀ c ∈ line, (c == '\n') = false := fun line hline c hc =>
    beq_eq_false_iff_ne.2 fun heq => hlines line hline (heq ▸ hc)
  have hcut := pieces_flatMap_append (p := (· == '\n')) (beq_self_eq_true '\n') hfeed
  rw [readTable, htext, hcut, List.dropLast_concat]

end Text

/-! ### Amounts -/

namespace Binary64

theorem lt_of_mem_withSign {negative : Bool} {cs : List Char} {c : Char}
    (hcs : ∀ d ∈ cs, ' ' < d) (h : c ∈ withSign negative cs) : ' ' < c := by
  unfold withSign at h
  split at h
  · rcases List.mem_cons.1 h with rfl | h
    · decide
    · exact hcs c h
  · exact hcs c h

/-- An amount is written with visible characters. -/
theorem lt_of_mem_fixed {x : Binary64} {places : Nat} {c : Char}
    (h : c ∈ (x.fixed places).toList) : ' ' < c := by
  have hdigit : ∀ d : Char, d.isDigit = true → ' ' < d := fun d hd =>
    Nat.lt_of_lt_of_le (by decide) (toNat_of_isDigit hd).1
  unfold fixed at h
  split at h
  · have hnan : ∀ d ∈ "nan".toList, ' ' < d := by simp
    exact hnan c h
  · have hinf : ∀ d ∈ "inf".toList, ' ' < d := by simp
    rw [String.toList_ofList] at h
    exact lt_of_mem_withSign hinf h
  · rw [String.toList_ofList] at h
    refine lt_of_mem_withSign (fun d hd => ?_) h
    rcases List.mem_append.1 hd with hd | hd
    · exact hdigit d (isDigit_of_mem_natDigits hd)
    · rcases List.mem_cons.1 hd with rfl | hd
      · decide
      · exact hdigit d (isDigit_of_mem_padLeft hd)

end Binary64

namespace CommandLine

open Text (readTable)

/-! ### Fields of a line -/

/-- The fields of a transaction: its id, date, description, amount and category. -/
def lineFields (t : Transaction) : List String :=
  [t.id, t.date, t.descriptionText, t.amount.fixed 2, t.categoryName]

/-- A field that is printed as it is, on one line and between tabs. -/
structure FitsLine (isTerminal : Bool) (s : String) : Prop where
  no_tab : '\t' ∉ s.toList
  no_feed : '\n' ∉ s.toList
  shown_eq : Run.shown isTerminal s = s

instance (isTerminal : Bool) (s : String) : Decidable (FitsLine isTerminal s) :=
  decidable_of_iff ('\t' ∉ s.toList ∧ '\n' ∉ s.toList ∧ Run.shown isTerminal s = s)
    ⟨fun ⟨htab, hfeed, hshown⟩ => ⟨htab, hfeed, hshown⟩, fun ⟨htab, hfeed, hshown⟩ =>
      ⟨htab, hfeed, hshown⟩⟩

theorem toList_shown (isTerminal : Bool) (s : String) :
    (Run.shown isTerminal s).toList =
      if isTerminal then s.toList else Text.withoutSequences s.toList := by
  cases isTerminal with
  | true => rfl
  | false => exact String.toList_ofList

theorem shown_of_notMem {isTerminal : Bool} {s : String} (h : '\x1b' ∉ s.toList) :
    Run.shown isTerminal s = s := by
  rw [← String.toList_inj, toList_shown, Text.withoutSequences_of_not_mem h, ite_self]

/-- What is shown of a text stood in it. -/
theorem mem_of_mem_shown {isTerminal : Bool} {s : String} {c : Char}
    (h : c ∈ (Run.shown isTerminal s).toList) : c ∈ s.toList := by
  rw [toList_shown] at h
  split at h
  · exact h
  · exact Text.mem_of_mem_withoutSequences h

theorem fitsLine_fixed (isTerminal : Bool) (x : Binary64) (places : Nat) :
    FitsLine isTerminal (x.fixed places) where
  no_tab h := absurd (Binary64.lt_of_mem_fixed h) (by decide)
  no_feed h := absurd (Binary64.lt_of_mem_fixed h) (by decide)
  shown_eq := shown_of_notMem fun h => absurd (Binary64.lt_of_mem_fixed h) (by decide)

/-- The line of a transaction is shown field by field. -/
theorem toList_shown_transactionLine (isTerminal : Bool) (t : Transaction) :
    (Run.shown isTerminal (transactionLine t)).toList =
      List.intercalate ['\t'] ((lineFields t).map fun s => (Run.shown isTerminal s).toList) := by
  have hline : (transactionLine t).toList =
      List.intercalate ['\t'] ((lineFields t).map String.toList) := String.toList_intercalate
  simp only [toList_shown]
  split
  · exact hline
  · rw [hline, Text.withoutSequences_intercalate, List.map_map]
    rfl

/-! ### Printed transactions -/

/-- What reports print. -/
def printed (isTerminal : Bool) (reports : List Report) : String :=
  Run.textOf (reports.filterMap (Run.outputLine? isTerminal))

/-- What transactions print. -/
def listing (isTerminal : Bool) (ts : List Transaction) : String :=
  printed isTerminal (ts.map fun t => .out (transactionLine t))

variable {isTerminal : Bool} {ts : List Transaction}

theorem toList_textOf (lines : List String) :
    (Run.textOf lines).toList = (lines.map String.toList).flatMap (· ++ ['\n']) := by
  simp [Run.textOf, String.toList_join, List.flatMap_map]

theorem toList_listing (isTerminal : Bool) (ts : List Transaction) :
    (listing isTerminal ts).toList =
      (ts.map fun t => (Run.shown isTerminal (transactionLine t)).toList).flatMap
        (· ++ ['\n']) := by
  have hlines : (ts.map fun t => Report.out (transactionLine t)).filterMap
      (Run.outputLine? isTerminal) = ts.map fun t => Run.shown isTerminal (transactionLine t) := by
    rw [List.filterMap_map]
    exact congrFun List.filterMap_eq_map ts
  rw [listing, printed, hlines, toList_textOf, List.map_map]
  rfl

/-- The cells of printed transactions are what is shown of their fields, if these have no tab and no
line feed. -/
theorem readTable_listing
    (h : ∀ t ∈ ts, ∀ s ∈ lineFields t, '\t' ∉ s.toList ∧ '\n' ∉ s.toList) :
    readTable (listing isTerminal ts) =
      ts.map fun t => (lineFields t).map (Run.shown isTerminal) := by
  have hlines : ∀ line ∈ ts.map fun t => (Run.shown isTerminal (transactionLine t)).toList,
      '\n' ∉ line := by
    intro line hline hfeed
    obtain ⟨t, ht, rfl⟩ := List.mem_map.1 hline
    rw [toList_shown_transactionLine] at hfeed
    rcases Text.mem_intercalate hfeed with hfeed | ⟨cell, hcell, hfeed⟩
    · cases hfeed
    · obtain ⟨s, hs, rfl⟩ := List.mem_map.1 hcell
      exact (h t ht s hs).2 (mem_of_mem_shown hfeed)
  rw [Text.readTable_of_lines (toList_listing isTerminal ts) hlines, List.map_map]
  refine List.map_congr_left fun t ht => ?_
  have hcells : ∀ cell ∈ (lineFields t).map fun s => (Run.shown isTerminal s).toList,
      ∀ c ∈ cell, (c == '\t') = false := by
    intro cell hcell c hc
    obtain ⟨s, hs, rfl⟩ := List.mem_map.1 hcell
    exact beq_eq_false_iff_ne.2 fun heq => (h t ht s hs).1 (heq ▸ mem_of_mem_shown hc)
  have hcut := Text.pieces_intercalate (p := (· == '\t')) (beq_self_eq_true '\t') hcells
    (by simp [lineFields])
  rw [Function.comp_apply, toList_shown_transactionLine, hcut, List.map_map]
  exact List.map_congr_left fun s _ => String.ofList_toList

/-- Printed transactions read as their fields exactly if every field fits its line. -/
theorem readTable_listing_eq_iff :
    readTable (listing isTerminal ts) = ts.map lineFields ↔
      ∀ t ∈ ts, ∀ s ∈ lineFields t, FitsLine isTerminal s := by
  constructor
  · intro h t ht s hs
    have hclean : ∀ t ∈ ts, ∀ s ∈ lineFields t, '\t' ∉ s.toList ∧ '\n' ∉ s.toList :=
      fun t ht s hs => Text.notMem_of_mem_readTable (h ▸ List.mem_map_of_mem ht) hs
    rw [readTable_listing hclean] at h
    have hrow : (lineFields t).map (Run.shown isTerminal) = (lineFields t).map id :=
      (List.map_inj_left.1 h t ht).trans (List.map_id _).symm
    exact ⟨(hclean t ht s hs).1, (hclean t ht s hs).2, List.map_inj_left.1 hrow s hs⟩
  · intro h
    rw [readTable_listing fun t ht s hs => ⟨(h t ht s hs).no_tab, (h t ht s hs).no_feed⟩]
    refine List.map_congr_left fun t ht => ?_
    calc (lineFields t).map (Run.shown isTerminal)
        = (lineFields t).map id := List.map_congr_left fun s hs => (h t ht s hs).shown_eq
      _ = lineFields t := List.map_id _

/-! ### Searches -/

theorem printed_append (isTerminal : Bool) (as bs : List Report) :
    printed isTerminal (as ++ bs) = printed isTerminal as ++ printed isTerminal bs := by
  rw [← String.toList_inj]
  simp only [printed, List.filterMap_append, String.toList_append, toList_textOf, List.map_append,
    List.flatMap_append]

/-- Records are not printed. -/
theorem printed_logged (isTerminal : Bool) (records : List LogRecord) :
    printed isTerminal (logged records) = "" := by
  induction records with
  | nil => rfl
  | cons record records ih => exact ih

theorem printed_empty (isTerminal : Bool) : printed isTerminal [.out ""] = "\n" := by
  change Run.textOf [Run.shown isTerminal ""] = "\n"
  rw [shown_of_notMem (by simp)]
  rfl

variable {s : Settings} {w : World} {query : String} {ledger found : List Transaction}

/-- A search finds transactions in the order of the ledger. -/
theorem sublist_of_filter {today : Date} (h : Query.filter today query ledger = .ok found) :
    found.Sublist ledger := by
  unfold Query.filter at h
  split at h
  · cases h
  · cases h
    exact List.Sublist.refl _
  · obtain ⟨keeps, -, rfl⟩ := Query.select_eq_ok_iff.1 h
    exact List.filter_sublist

/-- A search reports what it finds and its totals, after the records of the ledger and the query. -/
theorem run_search_eq (hledger : s.store.loadTransactions w.disk = .ok ledger)
    (hfilter : Query.filter s.today query ledger = .ok found) :
    (Command.search query).run s w =
      w.done (s.loadedReports w ledger ++ logged (Query.filterRecords s.today query ledger) ++
        found.map (fun t => .out (transactionLine t)) ++
        .out "" :: totalsReports (Totals.ofTransactions found)) := by
  rw [Command.run, runSearch, hledger]
  dsimp only
  rw [Ledger.search, hfilter]
  rfl

/-- **What a search prints.**  A search prints the transactions that satisfy the query in the order
of the ledger, an empty line, and their totals.  What stands before the empty line reads as one row
of id, date, description, amount and category for each of them, exactly if no id, date, description
and category holds a tab, a line feed or, where no terminal reads it, a control sequence. -/
theorem search_prints_listing (hledger : s.store.loadTransactions w.disk = .ok ledger)
    (hfilter : Query.filter s.today query ledger = .ok found) (isTerminal : Bool) :
    ((Command.search query).run s w).ending = .done ∧ found.Sublist ledger ∧
      printed isTerminal ((Command.search query).run s w).reports =
        listing isTerminal found ++ "\n" ++
          printed isTerminal (totalsReports (Totals.ofTransactions found)) ∧
      (readTable (listing isTerminal found) = found.map lineFields ↔
        ∀ t ∈ found, ∀ field ∈ [t.id, t.date, t.descriptionText, t.categoryName],
          FitsLine isTerminal field) := by
  rw [run_search_eq hledger hfilter]
  refine ⟨rfl, sublist_of_filter hfilter, ?printed, ?read⟩
  case printed =>
    rw [World.done, Settings.loadedReports, ← List.singleton_append]
    simp only [printed_append, printed_logged, printed_empty, String.empty_append, listing,
      String.append_assoc]
  case read =>
    rw [readTable_listing_eq_iff]
    have hamount : ∀ t : Transaction, FitsLine isTerminal (t.amount.fixed 2) := fun t =>
      fitsLine_fixed isTerminal t.amount 2
    simp [lineFields, hamount]

/-- A world with one transaction in store. -/
def storedWorld (t : Transaction) : World where
  disk :=
    { entries := [(["data"], .directory),
        (plainSettings.store.transactionsFile, .file (.text (Store.document
          (Shape.ofTransactions [t]))))] }
  minted := 0

theorem loadTransactions_storedWorld {t : Transaction} (hid : Text.isBlank t.id = false)
    (hsettled : t.settled = t) :
    plainSettings.store.loadTransactions (storedWorld t).disk = .ok [t] := by
  have hids : ∀ u ∈ [t], Text.isBlank u.id = false := by simpa using hid
  rw [Store.loadTransactions_of_file hids rfl, List.map_singleton, hsettled]

/-- A purchase of 4.50 with a description. -/
def purchase (description : String) : Transaction :=
  ⟨"1", "2025-01-31", some description, .ofRatio true 9 2, some "Food"⟩

/-- A coloured description is read back from a terminal, and without its colours elsewhere. -/
theorem search_prints_listing_coloured :
    let t := purchase "\x1b[31mRed\x1b[0m shell"
    readTable (listing true [t]) = [lineFields t] ∧
      readTable (listing false [t]) ≠ [lineFields t] ∧
      printed false ((Command.search "").run plainSettings (storedWorld t)).reports =
        "1\t2025-01-31\tRed shell\t-4.50\tFood\n\nFood\t-4.50\n" := by
  intro t
  have hledger := loadTransactions_storedWorld (t := t) (by decide) (by decide +kernel)
  have hfilter : Query.filter plainSettings.today "" [t] = .ok [t] := by decide +kernel
  obtain ⟨-, -, -, hterminal⟩ := search_prints_listing hledger hfilter true
  obtain ⟨-, -, hprinted, hother⟩ := search_prints_listing hledger hfilter false
  refine ⟨hterminal.2 (by decide +kernel), fun hread => ?_, hprinted.trans (by decide +kernel)⟩
  have hfits := hother.1 hread t (List.mem_singleton_self t)
  exact absurd (hfits t.descriptionText (by simp)) (by decide +kernel)

/-- A line feed in a description makes two lines of a transaction. -/
theorem not_readTable_of_search :
    ¬∀ (s : Settings) (w : World) (query : String) (ledger found : List Transaction)
        (isTerminal : Bool), s.store.loadTransactions w.disk = .ok ledger →
      Query.filter s.today query ledger = .ok found →
        ∃ before rest, printed isTerminal ((Command.search query).run s w).reports =
          before ++ "\n" ++ rest ∧ readTable before = found.map lineFields := by
  intro h
  let t := purchase "Tea\nroom"
  have hledger := loadTransactions_storedWorld (t := t) (by decide) (by decide +kernel)
  have hfilter : Query.filter plainSettings.today "" [t] = .ok [t] := by decide +kernel
  obtain ⟨before, rest, -, hread⟩ := h _ _ _ _ _ false hledger hfilter
  have hrow : lineFields t ∈ readTable before := by simp [hread]
  exact (Text.notMem_of_mem_readTable hrow (s := "Tea\nroom") (by decide)).2 (by decide)

end CommandLine

end SpendingLedger

import SpendingLedger.Proofs.Category.Lookup
import SpendingLedger.Proofs.CommandLine.Assigned

/-!
# Categories by their own names

A stored dictionary is loaded with the names it has, and a name that a command is given is looked up
by its key.  A category with a normalized name answers to its own name.  One with another name, as a
file may hold it, does so only through a category with the normalized name of the same key; without
such a category it is unknown to the commands, and its name can be taken again.

## Main definitions

* `Answers` — what is made of a name that some category answers to.
* `IsUnknown` — what is made of a name that no category answers to.

## Main results

* `answers_or_isUnknown` — **a stored category answers to its own name, if that is normalized.**
-/

namespace SpendingLedger.CommandLine

open CategoryName (normalize key)

variable {s : Settings} {w : World} {d : CategoryDictionary} {name : String}

/-- What is made of a name that some category answers to: a category with a name of the same key is
found and used, and no name of that key can be added. -/
structure Answers (s : Settings) (w : World) (d : CategoryDictionary) (name : String) : Prop where
  found : ∃ e ∈ d.entries, d.find? name = some e ∧ key e.name = key name
  refused : ∀ other keyword, key other = key name →
    ∃ error, d.addCategory other keyword = .error error
  taken : ∀ other keyword, key other = key name → CategoryName.IsValid other →
    ∃ existing, key existing = key name ∧
      d.addCategory other keyword = .error (.nameTaken existing)
  extended : ∀ keyword, Text.isBlank keyword = false →
    ∃ changed, d.addKeyword name keyword = .ok changed ∧
      (Command.addKeyword name keyword).run s w =
        saveDictionary s w (logged (d.addedKeywordRecords name keyword)) changed
  assigned : ∀ id ledger, s.store.loadTransactions w.disk = .ok ledger →
    id ∈ ledger.map Transaction.id →
      ∃ e ∈ d.entries, key e.name = key name ∧
        ∃ reports changed rest, Ledger.assign ledger id e.name = some changed ∧
          (Command.assign id name).run s w = s.saveLedger w reports changed rest

/-- What is made of a name that no category answers to: nothing is found, the name is unknown to the
commands, and every valid name of its key is free. -/
structure IsUnknown (s : Settings) (w : World) (d : CategoryDictionary) (name : String) :
    Prop where
  missed : d.find? name = none
  free : ∀ other keyword, key other = key name → CategoryName.IsValid other →
    ∃ changed, d.addCategory other keyword = .ok changed
  not_extended : ∀ keyword, Text.isBlank keyword = false →
    (Command.addKeyword name keyword).run s w = w.refusedFor [] (unknownCategory name)
  not_assigned : ∀ id, (Command.assign id name).run s w =
    w.refusedFor [] s!"{unknownCategory name} (add it with 'add-category')"

theorem answers_of_hasName (hload : s.store.loadDictionary w.disk = .ok d)
    (hname : d.HasName name) : Answers s w d name := by
  obtain ⟨e, hfound⟩ := CategoryDictionary.exists_find?_of_hasName hname
  obtain ⟨hmem, -, hkey⟩ := CategoryDictionary.mem_of_find? hfound
  have hsame : ∀ other, key other = key name → d.find? other = some e := fun other hother =>
    (CategoryDictionary.find?_congr hother).trans hfound
  refine ⟨⟨e, hmem, hfound, hkey⟩, ?refused, ?taken, ?extended, ?assigned⟩
  case refused =>
    intro other keyword hother
    have hknown := CategoryDictionary.hasName_of_find? (hsame other hother)
    rcases d.addCategory_cases other keyword with
      ⟨-, fault, heq⟩ | ⟨-, -, existing, heq⟩ | ⟨-, hnew, -⟩
    · exact ⟨_, heq⟩
    · exact ⟨_, heq⟩
    · exact absurd hknown hnew
  case taken =>
    intro other keyword hother hvalid
    have htaken := CategoryDictionary.addCategory_of_find? hvalid (hsame other hother) keyword
    exact ⟨e.name, hkey, htaken⟩
  case extended =>
    intro keyword hblank
    rcases d.addKeyword_cases name keyword with
      ⟨hblank', -⟩ | ⟨-, hunknown, -⟩ | ⟨-, -, target, -, heq⟩
    · rw [hblank] at hblank'
      cases hblank'
    · exact absurd hname hunknown
    · exact ⟨_, heq, run_addKeyword_eq hload heq⟩
  case assigned =>
    intro id ledger hledger hid
    obtain ⟨before, t, after, rfl, ht, hbefore⟩ := Ledger.exists_first hid
    have hchanged : Ledger.assign (before ++ t :: after) id e.name =
        some (before ++ t.withCategory e.name :: after) := Ledger.modifyFirst_at hbefore ht after
    obtain ⟨reports, rest, heq⟩ := exists_run_assign_eq hledger hload hfound hchanged
    exact ⟨e, hmem, hkey, reports, _, rest, hchanged, heq⟩

theorem isUnknown_of_not_hasName (hload : s.store.loadDictionary w.disk = .ok d)
    (hname : ¬d.HasName name) : IsUnknown s w d name := by
  have hnone := CategoryDictionary.find?_eq_none_iff.2 hname
  refine ⟨hnone, ?free, ?not_extended, ?not_assigned⟩
  case free =>
    intro other keyword hother hvalid
    have hfree : ¬d.HasName other := by
      rw [← CategoryDictionary.find?_eq_none_iff, CategoryDictionary.find?_congr hother, hnone]
    rcases d.addCategory_cases other keyword with
      ⟨hinvalid, -⟩ | ⟨-, htaken, -⟩ | ⟨-, -, changed, heq, -⟩
    · exact absurd hvalid hinvalid
    · exact absurd htaken hfree
    · exact ⟨changed, heq⟩
  case not_extended =>
    intro keyword hblank
    rcases d.addKeyword_cases name keyword with
      ⟨hblank', -⟩ | ⟨-, -, heq⟩ | ⟨-, hknown, -⟩
    · rw [hblank] at hblank'
      cases hblank'
    · rw [Command.run, runAddKeyword, hload]
      dsimp only
      rw [heq]
    · exact absurd hknown hname
  case not_assigned =>
    intro id
    rw [Command.run, runAssign, hload]
    dsimp only
    rw [hnone]

/-- **A stored category answers to its own name, if that is normalized.**  In every dictionary that
is loaded, a category with a normalized name is found under its own name.  Under the name of another
category one is found exactly if some normalized name has the same key.  If there is none, the
category can neither be assigned nor be given a keyword, and its normalized name can be added. -/
theorem answers_or_isUnknown (hload : s.store.loadDictionary w.disk = .ok d) {e : CategoryEntry}
    (hmem : e ∈ d.entries) :
    (normalize e.name = e.name → Answers s w d e.name) ∧
      ((∃ other ∈ d.entries, normalize other.name = other.name ∧ key other.name = key e.name) →
        Answers s w d e.name) ∧
      ((∀ other ∈ d.entries, key other.name = key e.name → normalize other.name ≠ other.name) →
        IsUnknown s w d e.name) := by
  refine ⟨fun hnormal => ?_, fun hother => ?_, fun hnone => ?_⟩
  · exact answers_of_hasName hload (CategoryDictionary.hasName_iff.2 ⟨e, hmem, hnormal, rfl⟩)
  · exact answers_of_hasName hload (CategoryDictionary.hasName_iff.2 hother)
  · refine isUnknown_of_not_hasName hload fun hname => ?_
    obtain ⟨other, hother, hnormal, hkey⟩ := CategoryDictionary.hasName_iff.1 hname
    exact hnone other hother hkey hnormal

/-- A dictionary with a name that has two blanks in a row, and one that has not. -/
def spacedDictionary : CategoryDictionary :=
  ⟨[⟨"Eating  out", []⟩, ⟨"Gas", ["shell"]⟩], by decide⟩

/-- A world with this dictionary in store. -/
def spacedWorld : World where
  disk :=
    { entries := [(["data"], .directory),
        (plainSettings.store.dictionaryFile, .file (.text (Store.document
          (Shape.ofDictionary spacedDictionary))))] }
  minted := 0

theorem loadDictionary_spacedWorld :
    plainSettings.store.loadDictionary spacedWorld.disk = .ok spacedDictionary :=
  Store.loadDictionary_of_file rfl

/-- One category answers to its own name, the other one does not. -/
theorem answers_or_isUnknown_spaced :
    Answers plainSettings spacedWorld spacedDictionary "Gas" ∧
      IsUnknown plainSettings spacedWorld spacedDictionary "Eating  out" := by
  have hgas : (⟨"Gas", ["shell"]⟩ : CategoryEntry) ∈ spacedDictionary.entries := by decide
  have heating : (⟨"Eating  out", []⟩ : CategoryEntry) ∈ spacedDictionary.entries := by decide
  refine ⟨(answers_or_isUnknown loadDictionary_spacedWorld hgas).1 (by decide), ?_⟩
  refine (answers_or_isUnknown loadDictionary_spacedWorld heating).2.2 ?_
  decide +kernel

/-- A stored category need not answer to its own name, and its name can be added in other letters
and with other spaces. -/
theorem not_answers_of_stored :
    plainSettings.store.loadDictionary spacedWorld.disk = .ok spacedDictionary ∧
      ⟨"Eating  out", []⟩ ∈ spacedDictionary.entries ∧
      spacedDictionary.find? "Eating  out" = none ∧
      key "eating out" = key "Eating  out" ∧
      ∃ changed, spacedDictionary.addCategory "eating out" none = .ok changed := by
  refine ⟨loadDictionary_spacedWorld, by decide, by decide +kernel, by decide +kernel, ?_⟩
  rcases spacedDictionary.addCategory_cases "eating out" none with
    ⟨hinvalid, -⟩ | ⟨-, hknown, -⟩ | ⟨-, -, changed, heq, -⟩
  · exact absurd (CategoryName.fault?_eq_none_iff.1 (by decide +kernel)) hinvalid
  · refine absurd hknown (CategoryDictionary.find?_eq_none_iff.1 ?_)
    decide +kernel
  · exact ⟨changed, heq⟩

end SpendingLedger.CommandLine

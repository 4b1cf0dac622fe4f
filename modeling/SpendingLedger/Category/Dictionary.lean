import SpendingLedger.Value

/-!
# Keyword dictionaries

A dictionary lists categories in order, each with the keywords that hint at it.  No two categories
have the same name.

## Main definitions

* `CategoryEntry`, `CategoryDictionary` — a category with its keywords, and a dictionary.
* `CategoryDictionary.ofEntries` — the dictionary of a list of entries, if their names differ.
* `CategoryDictionary.ofFields` — the dictionary of a table.
* `CategoryDictionary.starter` — the dictionary to begin with.

## References

`SPEC_FULL.md`, sections 3, *Data Model*, and 4.8, *Dictionary editing*.
-/

namespace SpendingLedger

/-- A category and the keywords that hint at it. -/
structure CategoryEntry where
  name : String
  keywords : List String
  deriving DecidableEq

/-- Categories in order, under different names. -/
structure CategoryDictionary where
  entries : List CategoryEntry
  distinct : (entries.map CategoryEntry.name).Nodup
  deriving DecidableEq

namespace CategoryDictionary

/-- Why a list of entries is no dictionary: a name occurs again. -/
structure DuplicateName where
  name : String
  deriving DecidableEq

/-- What is said of a name that occurs again. -/
def DuplicateName.message (e : DuplicateName) : String :=
  String.join ["duplicate category name: ", Text.quote e.name]

/-- The first name that occurs again in `names` or that is one of `seen`. -/
def firstRepeated? (seen : List String) : List String → Option String
  | [] => none
  | n :: rest => if n ∈ seen then some n else firstRepeated? (n :: seen) rest

theorem nodup_of_firstRepeated?_eq_none {seen names : List String}
    (h : firstRepeated? seen names = none) : names.Nodup ∧ ∀ n ∈ names, n ∉ seen := by
  induction names generalizing seen with
  | nil => simp
  | cons n rest ih =>
    rw [firstRepeated?] at h
    split at h
    · simp at h
    · next hn =>
      obtain ⟨hd, hs⟩ := ih h
      refine ⟨List.nodup_cons.2 ⟨fun hmem => hs n hmem (by simp), hd⟩, ?_⟩
      intro m hm
      rcases List.mem_cons.1 hm with rfl | hm
      · exact hn
      · exact fun hseen => hs m hm (List.mem_cons_of_mem _ hseen)

/-- The dictionary of a list of entries. -/
def ofEntries (entries : List CategoryEntry) : Except DuplicateName CategoryDictionary :=
  match h : firstRepeated? [] (entries.map CategoryEntry.name) with
  | some name => .error ⟨name⟩
  | none => .ok ⟨entries, (nodup_of_firstRepeated?_eq_none h).1⟩

theorem firstRepeated?_of_nodup {seen names : List String} (hnodup : names.Nodup)
    (hseen : ∀ n ∈ names, n ∉ seen) : firstRepeated? seen names = none := by
  induction names generalizing seen with
  | nil => rfl
  | cons n rest ih =>
    obtain ⟨hn, hrest⟩ := List.nodup_cons.1 hnodup
    rw [firstRepeated?, if_neg (hseen n List.mem_cons_self)]
    refine ih hrest fun m hm hmem => ?_
    rcases List.mem_cons.1 hmem with rfl | hmem
    · exact hn hm
    · exact hseen m (List.mem_cons_of_mem n hm) hmem

/-- The entries of a dictionary make that dictionary. -/
theorem ofEntries_entries (d : CategoryDictionary) : ofEntries d.entries = .ok d := by
  have hnone : firstRepeated? [] (d.entries.map CategoryEntry.name) = none :=
    firstRepeated?_of_nodup d.distinct fun _ _ => List.not_mem_nil
  unfold ofEntries
  split
  · next name hsome =>
    rw [hnone] at hsome
    cases hsome
  · rfl

/-- Why a table is no dictionary. -/
inductive Misfit
  /-- A value has no members, which would be keywords. -/
  | noMembers
  /-- A keyword is an integer that is too long. -/
  | integerTooLong (e : Integer.TooLong)
  | duplicateName (e : DuplicateName)
  deriving DecidableEq

/-- The entry of a field of a table: the texts of the members are the keywords. -/
def entryOf (field : String × Value) : Except Misfit CategoryEntry :=
  match field.2.members? with
  | none => .error .noMembers
  | some members =>
    ((members.mapM Value.asText).map (CategoryEntry.mk field.1)).mapError .integerTooLong

/-- The dictionary of a table, the specification's `CategoryDictionary.from_mapping`. -/
def ofFields (fields : Fields Value) : Except Misfit CategoryDictionary :=
  match fields.mapM entryOf with
  | .error e => .error e
  | .ok entries => (ofEntries entries).mapError .duplicateName

/-- The dictionary without categories. -/
def empty : CategoryDictionary := ⟨[], List.nodup_nil⟩

/-- The dictionary to begin with, the specification's `DEFAULT_DICTIONARY`. -/
def starter : CategoryDictionary :=
  ⟨[⟨"Gas", ["shell", "exxon", "chevron", "bp"]⟩,
    ⟨"Coffee", ["starbucks", "dunkin", "peets"]⟩,
    ⟨"Groceries", ["whole foods", "trader joe", "aldi", "kroger"]⟩], by decide⟩

/-- The names in order. -/
def names (d : CategoryDictionary) : List String := d.entries.map CategoryEntry.name

/-- The entry with exactly the name `name`. -/
def get? (d : CategoryDictionary) (name : String) : Option CategoryEntry :=
  d.entries.find? (·.name == name)

/-- Whether there is an entry with exactly the name `name`. -/
def contains (d : CategoryDictionary) (name : String) : Bool := d.names.contains name

@[ext] theorem ext_entries {d e : CategoryDictionary} (h : d.entries = e.entries) : d = e := by
  cases d; cases e; simp_all

theorem nodup_names (d : CategoryDictionary) : d.names.Nodup := d.distinct

end CategoryDictionary

end SpendingLedger

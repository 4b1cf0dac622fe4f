import SpendingLedger.Category.Dictionary
import SpendingLedger.Category.Name
import SpendingLedger.Log.Record
import SpendingLedger.Value

/-!
# Editing a dictionary

A dictionary grows by categories at its end and by keywords at the end of a category.  A category is
found by its name without regard to case and spacing, and a keyword that a category already has, in
letters of either case, is not added again.

## Main definitions

* `CategoryDictionary.find?` — the category that a name means.
* `CategoryDictionary.addCategory`, `CategoryDictionary.addKeyword` — the two edits.

## References

`SPEC_FULL.md`, section 4.8, *Dictionary editing*.
-/

namespace SpendingLedger

/-- Whether an entry has a keyword, in letters of either case. -/
def CategoryEntry.hasKeyword (e : CategoryEntry) (keyword : String) : Bool :=
  e.keywords.any fun k => Text.lower k == Text.lower keyword

namespace CategoryDictionary

/-- Why an edit is refused. -/
inductive EditError
  | invalidName (name : String) (fault : CategoryName.Fault)
  | nameTaken (existing : String)
  | blankKeyword
  | unknownCategory (name : String)
  deriving DecidableEq

/-- What is said of an edit that is refused. -/
def EditError.message : EditError → String
  | .invalidName name fault =>
    String.join ["Invalid category name ", Text.quote name, ": ", fault.message]
  | .nameTaken existing => String.join ["Category already exists: ", Text.quote existing]
  | .blankKeyword => "keyword cannot be empty"
  | .unknownCategory name => Text.quote name

/-- The first category whose name in lower case is the key of `name`. -/
def find? (d : CategoryDictionary) (name : String) : Option CategoryEntry :=
  d.entries.find? fun e => Text.lower e.name == CategoryName.key name

/-- The keywords of a new category: one, unless it is blank. -/
def firstKeywords (keyword : Option String) : List String :=
  let k := Text.trim (keyword.getD "")
  if k.isEmpty then [] else [k]

theorem normalize_not_mem_names_of_find?_eq_none {d : CategoryDictionary} {name : String}
    (h : d.find? name = none) : CategoryName.normalize name ∉ d.names := by
  intro hmem
  obtain ⟨e, he, hname⟩ := List.mem_map.1 hmem
  have hne := List.find?_eq_none.1 h e he
  rw [hname] at hne
  exact hne (beq_self_eq_true (CategoryName.key name))

/-- The dictionary with an entry of a new name added at the end. -/
def append (d : CategoryDictionary) (e : CategoryEntry) (h : e.name ∉ d.names) :
    CategoryDictionary where
  entries := d.entries ++ [e]
  distinct := by
    rw [List.map_append, List.nodup_append]
    refine ⟨d.distinct, by simp, ?_⟩
    intro a ha b hb
    simp only [List.map_cons, List.map_nil, List.mem_singleton] at hb
    rintro rfl
    exact h (hb ▸ ha)

/-- The dictionary with the category `name` added at the end, the specification's `add_category`. -/
def addCategory (d : CategoryDictionary) (name : String) (keyword : Option String) :
    Except EditError CategoryDictionary :=
  match CategoryName.fault? name CategoryName.leastLength CategoryName.greatestLength with
  | some fault => .error (.invalidName name fault)
  | none =>
    match h : d.find? name with
    | some existing => .error (.nameTaken existing.name)
    | none => .ok (d.append ⟨CategoryName.normalize name, firstKeywords keyword⟩
        (normalize_not_mem_names_of_find?_eq_none h))

/-- `e` with `keyword` added at the end if its name is `name`. -/
def extendNamed (name keyword : String) (e : CategoryEntry) : CategoryEntry :=
  if e.name = name then { e with keywords := e.keywords ++ [keyword] } else e

@[simp] theorem name_extendNamed (name keyword : String) (e : CategoryEntry) :
    (extendNamed name keyword e).name = e.name := by
  unfold extendNamed; split <;> rfl

/-- The dictionary with `keyword` added to the category named `name`. -/
def extend (d : CategoryDictionary) (name keyword : String) : CategoryDictionary :=
  ⟨d.entries.map (extendNamed name keyword), by
    simpa [List.map_map, Function.comp_def] using d.distinct⟩

/-- The dictionary with a keyword added to the category that `category` means; the dictionary itself
if the category has that keyword.  This is the specification's `add_keyword`. -/
def addKeyword (d : CategoryDictionary) (category keyword : String) :
    Except EditError CategoryDictionary :=
  let k := Text.trim keyword
  if k.isEmpty then .error .blankKeyword
  else match d.find? category with
    | none => .error (.unknownCategory category)
    | some target => .ok (if target.hasKeyword k then d else d.extend target.name k)

/-! ### What is logged -/

/-- The record of a category that was added. -/
def addedCategoryRecord (name : String) (keyword : Option String) : LogRecord :=
  let quoted := Text.quote (CategoryName.normalize name)
  let keywords :=
    Value.commaJoined ((firstKeywords keyword).map fun k => Text.quoteChars k.toList)
  .info "spending_analysis.dictionary"
    s!"Added category {quoted} (keywords=[{String.ofList keywords}])"

/-- The records of a keyword that was to be added; there is none if nothing changed. -/
def addedKeywordRecords (d : CategoryDictionary) (category keyword : String) : List LogRecord :=
  let k := Text.trim keyword
  match d.find? category with
  | none => []
  | some target =>
    if target.hasKeyword k then []
    else [.info "spending_analysis.dictionary"
      s!"Added keyword {Text.quote k} to {Text.quote target.name}"]

end CategoryDictionary

end SpendingLedger

import SpendingLedger.Category.Edit
import SpendingLedger.Proofs.Category.Cascade
import SpendingLedger.Proofs.Text.Case

/-!
# Names of categories

The names of a dictionary that has grown from the one to begin with are words with single spaces
between them, and none of them is the name that stands for no category.  A description is resolved
to one of the names or to none.

## Main definitions

* `CategoryDictionary.IsProper` — the dictionaries with such names.

## Main results

* `category_resolve` — **a description is resolved to a name of the dictionary or to none.**
* `CategoryDictionary.isProper_addCategory`, `CategoryDictionary.isProper_addKeyword` — edits keep
  the names proper.
-/

namespace SpendingLedger

open Text (Trimmed isSpace isWhite)

namespace CategoryName

/-- Normalizing a second time changes nothing. -/
theorem normalize_normalize (name : String) : normalize (normalize name) = normalize name := by
  unfold normalize
  rw [String.toList_ofList, normalizeChars, normalizeChars, Text.words_intercalate_words]

/-- A normalized name has no space at its ends. -/
theorem trimmed_normalize (name : String) : Trimmed isSpace (normalize name).toList := by
  rw [normalize, String.toList_ofList]
  exact Text.trimmed_intercalate fun w hw => Text.trimmed_of_mem_words hw

/-- A name without a fault is not empty and not the name that stands for no category. -/
theorem normalize_of_fault?_eq_none {name : String} {least most : Int}
    (h : fault? name least most = none) :
    normalize name ≠ "" ∧ normalize name ≠ uncategorized := by
  unfold fault? at h
  dsimp only at h
  split at h
  · cases h
  split at h
  · cases h
  split at h
  · cases h
  next hchars =>
  split at h
  · cases h
  next hreserved =>
  constructor
  · intro hempty
    rw [hempty] at hchars
    exact hchars rfl
  · intro hsame
    exact hreserved (by rw [hsame])

end CategoryName

/-! ### Proper dictionaries -/

namespace CategoryDictionary

/-- Whether each name is a trimmed text, not empty, and not the one that stands for no category. -/
def IsProper (d : CategoryDictionary) : Prop :=
  ∀ name ∈ d.names, name ≠ "" ∧ name ≠ uncategorized ∧ Trimmed isWhite name.toList

instance (d : CategoryDictionary) : Decidable d.IsProper :=
  inferInstanceAs (Decidable (∀ name ∈ d.names, _))

theorem isProper_starter : starter.IsProper := by decide

@[simp] theorem names_extend (d : CategoryDictionary) (name keyword : String) :
    (d.extend name keyword).names = d.names := by
  show (d.entries.map (extendNamed name keyword)).map CategoryEntry.name = _
  rw [List.map_map]
  exact List.map_congr_left fun e _ => name_extendNamed name keyword e

/-- A new category comes behind the others, under its normalized name, which has no fault. -/
theorem entries_addCategory {d d' : CategoryDictionary} {name : String} {keyword : Option String}
    (h : d.addCategory name keyword = .ok d') :
    d'.entries = d.entries ++ [⟨CategoryName.normalize name, firstKeywords keyword⟩] ∧
      CategoryName.fault? name CategoryName.leastLength CategoryName.greatestLength = none := by
  unfold addCategory at h
  split at h
  · cases h
  next hfault =>
  split at h
  · cases h
  cases h
  exact ⟨rfl, hfault⟩

/-- A keyword comes behind the others of the category that is meant, unless it has that keyword. -/
theorem exists_of_addKeyword {d d' : CategoryDictionary} {category keyword : String}
    (h : d.addKeyword category keyword = .ok d') :
    ∃ target, d.find? category = some target ∧
      (d' = d ∨ d' = d.extend target.name (Text.trim keyword)) := by
  unfold addKeyword at h
  dsimp only at h
  split at h
  · cases h
  split at h
  · cases h
  next target hfind =>
  cases h
  refine ⟨target, hfind, ?_⟩
  split
  · exact Or.inl rfl
  · exact Or.inr rfl

/-- The names after a category is added. -/
theorem names_addCategory {d d' : CategoryDictionary} {name : String} {keyword : Option String}
    (h : d.addCategory name keyword = .ok d') :
    d'.names = d.names ++ [CategoryName.normalize name] ∧
      CategoryName.normalize name ≠ "" ∧ CategoryName.normalize name ≠ uncategorized := by
  obtain ⟨hentries, hfault⟩ := entries_addCategory h
  refine ⟨?_, CategoryName.normalize_of_fault?_eq_none hfault⟩
  rw [names, hentries, List.map_append]
  rfl

/-- A keyword changes no name. -/
theorem names_addKeyword {d d' : CategoryDictionary} {category keyword : String}
    (h : d.addKeyword category keyword = .ok d') : d'.names = d.names := by
  obtain ⟨target, -, rfl | rfl⟩ := exists_of_addKeyword h
  · rfl
  · exact names_extend _ _ _

theorem isProper_addCategory {d d' : CategoryDictionary} {name : String} {keyword : Option String}
    (hd : d.IsProper) (h : d.addCategory name keyword = .ok d') : d'.IsProper := by
  obtain ⟨hnames, hne, hreserved⟩ := names_addCategory h
  intro other hother
  rw [hnames] at hother
  rcases List.mem_append.1 hother with hother | hother
  · exact hd other hother
  · rw [List.mem_singleton.1 hother]
    exact ⟨hne, hreserved, (CategoryName.trimmed_normalize name).white⟩

theorem isProper_addKeyword {d d' : CategoryDictionary} {category keyword : String}
    (hd : d.IsProper) (h : d.addKeyword category keyword = .ok d') : d'.IsProper := by
  unfold IsProper
  rw [names_addKeyword h]
  exact hd

/-- The entry that a name means is an entry of the dictionary. -/
theorem name_mem_of_find? {d : CategoryDictionary} {name : String} {e : CategoryEntry}
    (h : d.find? name = some e) : e.name ∈ d.names :=
  List.mem_map_of_mem (List.mem_of_find?_eq_some h)

/-- The entry that a name means has no white space at its ends: in lower case it is a normalized
name. -/
theorem trimmed_of_find? {d : CategoryDictionary} {name : String} {e : CategoryEntry}
    (h : d.find? name = some e) : Trimmed isWhite e.name.toList := by
  have hkey : Text.lower e.name = CategoryName.key name := by
    simpa using List.find?_some h
  rw [← Text.trimmed_lowerChars_iff, ← Text.toList_lower, hkey, CategoryName.key,
    Text.toList_lower, Text.trimmed_lowerChars_iff]
  exact (CategoryName.trimmed_normalize name).white

end CategoryDictionary

/-! ### Resolutions -/

/-- A description is resolved to a name of the dictionary or to none. -/
theorem category_resolve (description : Option String) (d : CategoryDictionary)
    (threshold : Binary64) :
    (resolve description d threshold).category = uncategorized ∨
      (resolve description d threshold).category ∈ d.names := by
  rw [resolve_eq]
  by_cases h : Resolution.ofText (loweredText description) d.entries threshold = .unresolved
  · rw [h]
    exact Or.inl rfl
  · obtain ⟨e, hname, hfound⟩ := Resolution.exists_found h
    rw [hname]
    exact Or.inr (List.mem_map_of_mem hfound.mem)

end SpendingLedger

import SpendingLedger.Proofs.Category.WellFormed

/-!
# The categories that names mean

A name is looked up by its key: it is normalized and lowered, and compared with the lowered names
that are there.  The latter are not normalized, so no category with a name that has space at an end,
two spaces in a row or a space other than a blank is ever found: what is found has a normalized name
with the same key.

## Main results

* `CategoryName.key_eq_normalize_lower` — normalizing and lowering may change places.
* `CategoryName.lower_eq_key_iff` — **a name in lower case is a key only if it is normalized.**
* `CategoryDictionary.hasName_iff` — **a name is found by categories with normalized names only.**
-/

namespace SpendingLedger

namespace CategoryName

/-- Normalizing and lowering may change places. -/
theorem normalizeChars_lowerChars (cs : List Char) :
    normalizeChars (Text.lowerChars cs) = Text.lowerChars (normalizeChars cs) := by
  unfold normalizeChars
  rw [Text.words_lowerChars, Text.lowerChars_intercalate]

theorem key_eq_normalize_lower (name : String) : key name = normalize (Text.lower name) := by
  rw [← String.toList_inj]
  simp [key, normalize, normalizeChars_lowerChars]

/-- A text is normalized if it is so in lower case. -/
theorem normalizeChars_lowerChars_eq_iff {cs : List Char} :
    normalizeChars (Text.lowerChars cs) = Text.lowerChars cs ↔ normalizeChars cs = cs := by
  constructor
  · intro h
    refine Text.intercalate_words_iff.2 ?_
    rcases Text.intercalate_words_iff.1 h with hempty | ⟨hblank, hpieces⟩
    · exact Or.inl (Text.lowerChars_eq_nil_iff.1 hempty)
    -- the spaces stay where they are, and so do the pieces between them
    · refine Or.inr ⟨fun c hc hspace => hblank c ?_ hspace, fun hempty => hpieces ?_⟩
      · exact Text.mem_lowerChars_of_isSpace hspace hc
      · rw [Text.pieces_lowerChars]
        exact List.mem_map.2 ⟨[], hempty, Text.lowerChars_nil⟩
  · intro h
    rw [normalizeChars_lowerChars, h]

theorem normalize_eq_self_iff {name : String} :
    normalize name = name ↔ normalizeChars name.toList = name.toList := by
  rw [normalize, ← String.toList_inj, String.toList_ofList]

/-- A name in lower case is its own key exactly if it is normalized. -/
theorem lower_eq_own_key_iff {name : String} :
    Text.lower name = key name ↔ normalize name = name := by
  rw [key_eq_normalize_lower, eq_comm, normalize_eq_self_iff, normalize_eq_self_iff,
    Text.toList_lower, normalizeChars_lowerChars_eq_iff]

/-- A name in lower case is a key exactly if it is normalized and the key is its own. -/
theorem lower_eq_key_iff {other name : String} :
    Text.lower other = key name ↔ normalize other = other ∧ key other = key name := by
  constructor
  · intro h
    have hown : Text.lower other = key other := by
      rw [key_eq_normalize_lower other, h, key_eq_normalize_lower, normalize_normalize]
    exact ⟨lower_eq_own_key_iff.1 hown, hown.symm.trans h⟩
  · rintro ⟨hnormal, hkey⟩
    rw [lower_eq_own_key_iff.2 hnormal, hkey]

end CategoryName

namespace CategoryDictionary

open CategoryName (normalize key lower_eq_key_iff)

variable {d : CategoryDictionary} {name : String}

/-- A name is that of a category exactly if a category has a normalized name of the same key. -/
theorem hasName_iff :
    d.HasName name ↔ ∃ e ∈ d.entries, normalize e.name = e.name ∧ key e.name = key name := by
  unfold HasName
  simp only [← lower_eq_key_iff]
  rfl

/-- What is found is a category with a normalized name of the same key. -/
theorem mem_of_find? {found : CategoryEntry} (h : d.find? name = some found) :
    found ∈ d.entries ∧ normalize found.name = found.name ∧ key found.name = key name := by
  refine ⟨List.mem_of_find?_eq_some h, lower_eq_key_iff.1 ?_⟩
  simpa using List.find?_some h

theorem exists_find?_of_hasName (h : d.HasName name) : ∃ found, d.find? name = some found := by
  cases hfound : d.find? name with
  | none => exact absurd h (find?_eq_none_iff.1 hfound)
  | some found => exact ⟨found, rfl⟩

/-- A valid name that means a category is taken. -/
theorem addCategory_of_find? (hvalid : CategoryName.IsValid name) {found : CategoryEntry}
    (h : d.find? name = some found) (keyword : Option String) :
    d.addCategory name keyword = .error (.nameTaken found.name) := by
  unfold addCategory
  rw [CategoryName.fault?_eq_none_iff.2 hvalid]
  dsimp only
  split
  · next existing hexisting =>
    rw [h] at hexisting
    cases hexisting
    rfl
  · next hnone =>
    rw [h] at hnone
    cases hnone

/-- Names of one key mean the same. -/
theorem find?_congr {other : String} (h : key other = key name) : d.find? other = d.find? name := by
  unfold find?
  rw [h]

end CategoryDictionary

end SpendingLedger

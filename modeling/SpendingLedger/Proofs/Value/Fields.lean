import Mathlib.Data.List.Induction
import SpendingLedger.Value

/-!
# Named values

A list of named values becomes a table in which each name stands once, where it stood first, with
the value that stood last.

## Main results

* `Fields.mem_of_mem_ofList` — the fields of a table are those of the list.
* `Fields.names_ofList` — the names of the list are those of the table, each once.
* `Fields.get?_ofList_append` — **the last value of a name counts.**
* `Fields.ofList_of_nodup` — fields of different names are kept as they are.
* `Fields.get?_map_mk`, `Fields.insert_map_mk` — a table that lists the values of a function.
-/

namespace SpendingLedger.Fields

variable {α : Type} {key : String} {fields : List (String × α)} {v : α} {f : String × α}

/-! ### Single fields -/

theorem mem_of_get? (h : get? key fields = some v) : (key, v) ∈ fields := by
  induction fields with
  | nil => cases h
  | cons f fields ih =>
    obtain ⟨k, w⟩ := f
    rw [get?] at h
    split at h
    · next hk =>
      cases h
      exact hk ▸ List.mem_cons_self
    · exact List.mem_cons_of_mem _ (ih h)

/-- A name has no value exactly if it is none of the names. -/
theorem get?_eq_none_iff : get? key fields = none ↔ key ∉ fields.map Prod.fst := by
  induction fields with
  | nil => simp
  | cons f fields ih =>
    obtain ⟨k, w⟩ := f
    rw [get?, List.map_cons, List.mem_cons, not_or]
    split
    · next hk => simp [hk]
    · next hk => rw [ih, and_iff_right (Ne.symm hk)]

theorem mem_insert (h : f ∈ insert key v fields) : f = (key, v) ∨ f ∈ fields := by
  induction fields with
  | nil => exact Or.inl (List.mem_singleton.1 h)
  | cons g fields ih =>
    obtain ⟨k, w⟩ := g
    unfold insert at h
    split at h
    · exact (List.mem_cons.1 h).imp_right (List.mem_cons_of_mem _)
    · rcases List.mem_cons.1 h with rfl | h
      · exact Or.inr List.mem_cons_self
      · exact (ih h).imp_right (List.mem_cons_of_mem _)

theorem map_fst_insert (fields : Fields α) (v : α) :
    (insert key v fields).map Prod.fst =
      if key ∈ fields.map Prod.fst then fields.map Prod.fst else fields.map Prod.fst ++ [key] := by
  induction fields with
  | nil => rfl
  | cons f fields ih =>
    obtain ⟨k, w⟩ := f
    unfold insert
    by_cases hk : k = key
    · subst hk
      simp
    · rw [if_neg hk, List.map_cons, ih, List.map_cons]
      by_cases hmem : key ∈ fields.map Prod.fst
      · rw [if_pos hmem, if_pos (List.mem_cons_of_mem k hmem)]
      · rw [if_neg hmem, if_neg (List.not_mem_cons_of_ne_of_not_mem (Ne.symm hk) hmem)]
        rfl

/-- A field of a new name is put behind the others. -/
theorem insert_of_notMem (h : key ∉ fields.map Prod.fst) (v : α) :
    insert key v fields = fields ++ [(key, v)] := by
  induction fields with
  | nil => rfl
  | cons f fields ih =>
    obtain ⟨k, w⟩ := f
    rw [List.map_cons, List.mem_cons, not_or] at h
    rw [insert, if_neg (Ne.symm h.1), ih h.2]
    rfl

/-! ### The fields of a list -/

/-- The last field is inserted when those before it have been. -/
theorem ofList_concat (fields : List (String × α)) (f : String × α) :
    ofList (fields ++ [f]) = insert f.1 f.2 (ofList fields) := by
  unfold ofList
  rw [List.foldl_append, List.foldl_cons, List.foldl_nil]

theorem mem_of_mem_ofList (h : f ∈ ofList fields) : f ∈ fields := by
  induction fields using List.reverseRecOn with
  | nil => exact h
  | append_singleton fields g ih =>
    rw [ofList_concat] at h
    rcases mem_insert h with rfl | h
    · exact List.mem_append_right _ List.mem_cons_self
    · exact List.mem_append_left _ (ih h)

/-- A value among the fields of a list is one of the list. -/
theorem mem_of_get?_ofList (h : get? key (ofList fields) = some v) : (key, v) ∈ fields :=
  mem_of_mem_ofList (mem_of_get? h)

/-- The names of the fields of a list are those that are in the list, each once. -/
theorem names_ofList (fields : List (String × α)) :
    ((ofList fields).map Prod.fst).Nodup ∧
      ∀ name, name ∈ (ofList fields).map Prod.fst ↔ name ∈ fields.map Prod.fst := by
  induction fields using List.reverseRecOn with
  | nil => exact ⟨List.nodup_nil, fun name => Iff.rfl⟩
  | append_singleton fields f ih =>
    obtain ⟨hnodup, hnames⟩ := ih
    rw [ofList_concat, map_fst_insert, List.map_append]
    split
    · next hmem =>
      refine ⟨hnodup, fun name => ?_⟩
      have hold : f.1 ∈ fields.map Prod.fst := (hnames f.1).1 hmem
      rw [hnames, List.mem_append, List.map_singleton, List.mem_singleton]
      exact ⟨Or.inl, fun h => h.elim id fun heq => heq ▸ hold⟩
    · next hmem =>
      refine ⟨List.nodup_append.2 ⟨hnodup, by simp, ?_⟩, fun name => ?_⟩
      · intro a ha b hb hab
        rw [List.mem_singleton.1 hb] at hab
        exact hmem (hab ▸ ha)
      · rw [List.mem_append, List.mem_append, hnames]
        rfl

/-- The last value of a name counts. -/
theorem get?_ofList_append {before after : List (String × α)} (h : key ∉ after.map Prod.fst) :
    get? key (ofList (before ++ (key, v) :: after)) = some v := by
  induction after using List.reverseRecOn with
  | nil => rw [ofList_concat, get?_insert, if_pos rfl]
  | append_singleton after f ih =>
    rw [List.map_append, List.mem_append, not_or, List.map_singleton, List.mem_singleton] at h
    rw [← List.cons_append, ← List.append_assoc, ofList_concat, get?_insert,
      if_neg (Ne.symm h.2)]
    exact ih h.1

/-- Fields of different names are kept as they are. -/
theorem ofList_of_nodup (h : (fields.map Prod.fst).Nodup) : ofList fields = fields := by
  induction fields using List.reverseRecOn with
  | nil => rfl
  | append_singleton fields f ih =>
    rw [List.map_append, List.nodup_append] at h
    have hnew : f.1 ∉ fields.map Prod.fst := fun hmem =>
      h.2.2 f.1 hmem f.1 List.mem_cons_self rfl
    rw [ofList_concat, ih h.1, insert_of_notMem hnew]

/-! ### Names beside values -/

/-- Among names that are paired with values, the value of a name stands at its place. -/
theorem get?_zip {names : List String} {values : List α} (h : key ∈ names) :
    get? key (names.zip values) = values[names.idxOf key]? := by
  induction names generalizing values with
  | nil => exact absurd h List.not_mem_nil
  | cons name names ih =>
    cases values with
    | nil => rfl
    | cons w values =>
      rw [List.zip_cons_cons, get?, List.idxOf_cons]
      by_cases heq : name = key
      · subst heq
        simp
      · have hrest : key ∈ names := (List.mem_cons.1 h).resolve_left (Ne.symm heq)
        have hne : (name == key) = false := beq_eq_false_iff_ne.2 heq
        rw [if_neg heq, ih hrest, hne]
        rfl

/-! ### Tables of a function -/

/-- Among names that stand with their values under a function, each has its own. -/
theorem get?_map_mk (names : List String) (value : String → α) (key : String) :
    get? key (names.map fun name => (name, value name)) =
      if key ∈ names then some (value key) else none := by
  induction names with
  | nil => rfl
  | cons name names ih =>
    rw [List.map_cons, get?, ih]
    by_cases heq : name = key
    · subst heq
      simp
    · simp [heq, Ne.symm heq]

/-- A new value of a name changes the function at that name, which is put behind the others if it is
none of them. -/
theorem insert_map_mk {names : List String} (hnames : names.Nodup) (value : String → α)
    (key : String) (v : α) :
    insert key v (names.map fun name => (name, value name)) =
      (if key ∈ names then names else names ++ [key]).map fun name =>
        (name, if name = key then v else value name) := by
  have hother : ∀ ns : List String, key ∉ ns →
      (ns.map fun name => (name, if name = key then v else value name)) =
        ns.map fun name => (name, value name) := fun ns hns => by
    refine List.map_congr_left fun name hname => ?_
    have hne : name ≠ key := fun h => hns (h ▸ hname)
    rw [if_neg hne]
  induction names with
  | nil => simp [insert]
  | cons name names ih =>
    obtain ⟨hname, hnames⟩ := List.nodup_cons.1 hnames
    rw [List.map_cons, insert]
    by_cases heq : name = key
    · subst heq
      simp [hother names hname]
    · rw [if_neg heq, ih hnames]
      by_cases hmem : key ∈ names
      · simp [hmem, heq]
      · simp [hmem, heq, Ne.symm heq]

end SpendingLedger.Fields

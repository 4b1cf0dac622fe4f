import SpendingLedger.Proofs.Category.Names

/-!
# Dictionaries that grow

A dictionary is edited by adding categories and keywords.  An edit that succeeds leaves each
category at its place, under its name and with the keywords it had; what is new stands behind.  So a
keyword or a name that hints at a category goes on doing so, and a description that has a category
never loses it for none.

## Main definitions

* `CategoryDictionary.Edit`, `CategoryDictionary.edit` — the edits, one at a time.
* `CategoryDictionary.Extends` — what edits make of a dictionary.
* `CategoryDictionary.GrowsTo` — the dictionaries that edits which succeed lead to.

## Main results

* `CategoryDictionary.extends_edit`, `CategoryDictionary.extends_of_growsTo` — an edit extends the
  dictionary, and so do many.
* `resolve_uncategorized_iff` — **a description has no category exactly when nothing hints at one,
  and edits never take a category away.**
-/

namespace SpendingLedger

/-! ### Entries -/

namespace CategoryEntry

/-- Whether an entry becomes another one by keywords added at the end. -/
structure Extends (e e' : CategoryEntry) : Prop where
  name_eq : e'.name = e.name
  keywords_prefix : e.keywords <+: e'.keywords

variable {e e' e'' : CategoryEntry} {text : List Char} {threshold : Binary64}

theorem Extends.refl (e : CategoryEntry) : e.Extends e := ⟨rfl, List.prefix_refl _⟩

theorem Extends.trans (h : e.Extends e') (h' : e'.Extends e'') : e.Extends e'' :=
  ⟨h'.name_eq.trans h.name_eq, h.keywords_prefix.trans h'.keywords_prefix⟩

theorem extends_extendNamed (name keyword : String) (e : CategoryEntry) :
    e.Extends (CategoryDictionary.extendNamed name keyword e) := by
  refine ⟨CategoryDictionary.name_extendNamed name keyword e, ?_⟩
  unfold CategoryDictionary.extendNamed
  split
  · exact List.prefix_append _ _
  · exact List.prefix_refl _

/-- A keyword that hints at an entry is still one of its keywords. -/
theorem Extends.isHit (h : e.Extends e') (hhit : e.IsHit text) : e'.IsHit text := by
  obtain ⟨k, hk, hoccurs⟩ := hhit
  exact ⟨k, h.keywords_prefix.subset hk, hoccurs⟩

/-- A name that hints at an entry is still its name. -/
theorem Extends.isSimilar (h : e.Extends e') (hsimilar : e.IsSimilar text threshold) :
    e'.IsSimilar text threshold := by
  rw [IsSimilar, nameScore, h.name_eq]
  exact hsimilar

end CategoryEntry

/-! ### Edits -/

namespace CategoryDictionary

/-- An edit of a dictionary. -/
inductive Edit
  | addCategory (name : String) (keyword : Option String)
  | addKeyword (category keyword : String)

/-- The dictionary after an edit. -/
def edit (d : CategoryDictionary) : Edit → Except EditError CategoryDictionary
  | .addCategory name keyword => d.addCategory name keyword
  | .addKeyword category keyword => d.addKeyword category keyword

/-- Whether each category of a dictionary is at the same place in another one, under its name and
with its keywords in front. -/
def Extends (d d' : CategoryDictionary) : Prop :=
  ∀ (i : Nat) (e : CategoryEntry), d.entries[i]? = some e →
    ∃ e', d'.entries[i]? = some e' ∧ e.Extends e'

/-- The dictionaries that come from `d` by edits which succeed. -/
inductive GrowsTo (d : CategoryDictionary) : CategoryDictionary → Prop
  | refl : GrowsTo d d
  | step {d' d'' : CategoryDictionary} {change : Edit} (h : GrowsTo d d')
    (hedit : d'.edit change = .ok d'') : GrowsTo d d''

variable {d d' d'' : CategoryDictionary} {change : Edit}

theorem Extends.refl (d : CategoryDictionary) : d.Extends d :=
  fun _ e he => ⟨e, he, .refl e⟩

theorem Extends.trans (h : d.Extends d') (h' : d'.Extends d'') : d.Extends d'' := by
  intro i e he
  obtain ⟨e', he', hextends⟩ := h i e he
  obtain ⟨e'', he'', hextends'⟩ := h' i e' he'
  exact ⟨e'', he'', hextends.trans hextends'⟩

/-- Each category of a dictionary is one of an extended dictionary. -/
theorem Extends.exists_mem (h : d.Extends d') {e : CategoryEntry} (he : e ∈ d.entries) :
    ∃ e' ∈ d'.entries, e.Extends e' := by
  obtain ⟨i, hi⟩ := List.mem_iff_getElem?.1 he
  obtain ⟨e', he', hextends⟩ := h i e hi
  exact ⟨e', List.mem_of_getElem? he', hextends⟩

/-- An edit that succeeds extends the dictionary. -/
theorem extends_edit (h : d.edit change = .ok d') : d.Extends d' := by
  intro i e he
  cases change with
  | addCategory name keyword =>
    change d.addCategory name keyword = .ok d' at h
    obtain ⟨hlt, -⟩ := List.getElem?_eq_some_iff.1 he
    refine ⟨e, ?_, .refl e⟩
    rw [(entries_addCategory h).1, List.getElem?_append_left hlt, he]
  | addKeyword category keyword =>
    change d.addKeyword category keyword = .ok d' at h
    obtain ⟨target, -, rfl | rfl⟩ := exists_of_addKeyword h
    · exact ⟨e, he, .refl e⟩
    · refine ⟨_, ?_, CategoryEntry.extends_extendNamed target.name (Text.trim keyword) e⟩
      rw [extend, List.getElem?_map, he]
      rfl

/-- An edit that succeeds does not name a category as if it were none. -/
theorem uncategorized_not_mem_edit (hd : uncategorized ∉ d.names)
    (h : d.edit change = .ok d') : uncategorized ∉ d'.names := by
  cases change with
  | addCategory name keyword =>
    change d.addCategory name keyword = .ok d' at h
    obtain ⟨hnames, -, hreserved⟩ := names_addCategory h
    rw [hnames, List.mem_append, List.mem_singleton]
    rintro (hold | hnew)
    · exact hd hold
    · exact hreserved hnew.symm
  | addKeyword category keyword =>
    change d.addKeyword category keyword = .ok d' at h
    rw [names_addKeyword h]
    exact hd

theorem extends_of_growsTo (h : d.GrowsTo d') : d.Extends d' := by
  induction h with
  | refl => exact .refl d
  | step _ hedit ih => exact ih.trans (extends_edit hedit)

theorem uncategorized_not_mem_of_growsTo (hd : uncategorized ∉ d.names) (h : d.GrowsTo d') :
    uncategorized ∉ d'.names := by
  induction h with
  | refl => exact hd
  | step _ hedit ih => exact uncategorized_not_mem_edit ih hedit

end CategoryDictionary

/-! ### Descriptions without a category -/

variable {description : Option String} {d d' : CategoryDictionary} {threshold : Binary64}

/-- Unless a category is named as if it were none, the name for no category is found only where no
category is. -/
theorem category_resolve_eq_uncategorized_iff (hd : uncategorized ∉ d.names) :
    (resolve description d threshold).category = uncategorized ↔
      resolve description d threshold = .unresolved := by
  rw [resolve_eq]
  constructor
  · intro hnone
    by_contra hresolved
    obtain ⟨e, hname, hfound⟩ := Resolution.exists_found hresolved
    have hmem : e.name ∈ d.names := List.mem_map_of_mem hfound.mem
    rw [← hname] at hmem
    exact hd (hnone ▸ hmem)
  · intro hunresolved
    rw [hunresolved]
    rfl

/-- A dictionary that is extended resolves what it resolved before. -/
theorem resolve_ne_unresolved_of_extends (h : d.Extends d')
    (hresolved : resolve description d threshold ≠ .unresolved) :
    resolve description d' threshold ≠ .unresolved := by
  intro hnone
  refine hresolved (Resolution.ofText_eq_unresolved_iff.2 fun e he => ?_)
  obtain ⟨e', he', hextends⟩ := h.exists_mem he
  obtain ⟨hhit, hsimilar⟩ := Resolution.ofText_eq_unresolved_iff.1 hnone e' he'
  exact ⟨fun h => hhit (hextends.isHit h), fun h => hsimilar (hextends.isSimilar h)⟩

/-- **Descriptions without a category.**  Where no category is named as if it were none, a
description is resolved to the name of a category or to none.  It is none exactly when no keyword of
any category is in it and no name is similar enough; and whatever the dictionary grows to by edits
that succeed, a description with a category never has none. -/
theorem resolve_uncategorized_iff (hd : uncategorized ∉ d.names) :
    ((resolve description d threshold).category ∈ d.names ∨
        (resolve description d threshold).category = uncategorized) ∧
      ((resolve description d threshold).category = uncategorized ↔
        ∀ e ∈ d.entries, ¬ e.IsHit (loweredText description) ∧
          ¬ e.IsSimilar (loweredText description) threshold) ∧
      ∀ d', d.GrowsTo d' → (resolve description d threshold).category ≠ uncategorized →
        (resolve description d' threshold).category ≠ uncategorized := by
  refine ⟨(category_resolve description d threshold).symm, ?_, ?_⟩
  · rw [category_resolve_eq_uncategorized_iff hd]
    exact Resolution.ofText_eq_unresolved_iff
  · intro d' hgrows hresolved
    have hd' := CategoryDictionary.uncategorized_not_mem_of_growsTo hd hgrows
    rw [Ne, category_resolve_eq_uncategorized_iff hd] at hresolved
    rw [Ne, category_resolve_eq_uncategorized_iff hd']
    exact resolve_ne_unresolved_of_extends (CategoryDictionary.extends_of_growsTo hgrows) hresolved

/-- A description of the first dictionary has a category after a new one with a keyword in it. -/
theorem resolve_uncategorized_iff_starter :
    uncategorized ∉ CategoryDictionary.starter.names ∧
      ∃ d, CategoryDictionary.starter.GrowsTo d ∧
        d.names = ["Gas", "Coffee", "Groceries", "Tea"] ∧
        (resolve (some "Oolong, Shell station") d defaultNameThreshold).category ≠
          uncategorized := by
  have hstarter : uncategorized ∉ CategoryDictionary.starter.names := by decide
  let d : CategoryDictionary := CategoryDictionary.starter.append ⟨"Tea", []⟩ (by decide)
  have hadd : CategoryDictionary.starter.edit (.addCategory " Tea" none) = .ok d := by
    decide +kernel
  have hextend : d.edit (.addKeyword "tea" "oolong") = .ok (d.extend "Tea" "oolong") := by
    decide +kernel
  have hresolved : (resolve (some "Oolong, Shell station") .starter defaultNameThreshold).category ≠
      uncategorized := by
    decide +kernel
  have hgrows := (CategoryDictionary.GrowsTo.refl.step hadd).step hextend
  exact ⟨hstarter, _, hgrows, by decide +kernel,
    (resolve_uncategorized_iff hstarter).2.2 _ hgrows hresolved⟩

end SpendingLedger

import SpendingLedger.Proofs.Category.Growth

/-!
# Well-formed dictionaries

A dictionary is well formed when its names differ and its keywords are worth having, in letters of
either case.  An edit compares the normalized name, in lower case, with the names that are there,
and every one of these is normalized already: so a name that is accepted is a new one also in lower
case.  A keyword is compared with those of its category in the same way.  Hence edits keep a
dictionary well formed, however many there are and however many of them are refused.

## Main definitions

* `CategoryDictionary.IsWellFormed` — the dictionaries that edits keep.
* `CategoryDictionary.edits` — a dictionary after edits, of which some may be refused.
* `CategoryName.IsValid`, `CategoryDictionary.HasName` — what edits are refused for.
* `CategoryDictionary.editedEntries` — the entries of which an edit makes a dictionary.
* `CategoryDictionary.AnswersEdits` — which edits are refused, and why.

## Main results

* `CategoryDictionary.isWellFormed_edit`, `CategoryDictionary.answersEdits` — a single edit.
* `CategoryDictionary.isWellFormed_edits` — **edits keep a dictionary well formed and what it has.**
-/

namespace SpendingLedger

/-! ### Valid names -/

/-- Whether a name, once it is normalized, has 1 to 64 characters that can all stand in a name, and
is not the one for no category in letters of either case. -/
structure CategoryName.IsValid (name : String) : Prop where
  one_le_length : 1 ≤ (normalize name).length
  length_le : (normalize name).length ≤ 64
  allowed : ∀ c ∈ (normalize name).toList, isAllowed c = true
  unreserved : Text.lower (normalize name) ≠ Text.lower uncategorized

/-- The names without a fault are the valid ones. -/
theorem CategoryName.fault?_eq_none_iff {name : String} :
    fault? name leastLength greatestLength = none ↔ IsValid name := by
  unfold fault?
  dsimp only
  constructor
  · intro h
    split at h
    · cases h
    next hleast =>
    split at h
    · cases h
    next hmost =>
    split at h
    · cases h
    next hallowed =>
    split at h
    · cases h
    next hreserved =>
    rw [Bool.or_eq_true, not_or, Bool.not_eq_true', Bool.not_eq_false, List.all_eq_true]
      at hallowed
    have hlower : (1 : Int) ≤ (normalize name).length := Int.not_lt.1 hleast
    have hupper : ((normalize name).length : Int) ≤ 64 := Int.not_lt.1 hmost
    exact ⟨by omega, by omega, hallowed.2, hreserved⟩
  · intro h
    have hleast : ¬((normalize name).length : Int) < leastLength := by
      have := h.one_le_length
      unfold leastLength
      omega
    have hmost : ¬greatestLength < ((normalize name).length : Int) := by
      have := h.length_le
      unfold greatestLength
      omega
    have hempty : (normalize name).isEmpty = false := by
      rw [← Bool.not_eq_true, String.isEmpty_iff]
      intro hnone
      have := h.one_le_length
      rw [hnone] at this
      exact absurd this (by decide)
    rw [if_neg hleast, if_neg hmost, hempty, List.all_eq_true.2 h.allowed, if_neg (by decide),
      if_neg h.unreserved]

namespace CategoryDictionary

open CategoryName (normalize)

/-! ### Well-formed dictionaries -/

/-- Whether names are normalized, differ in lower case and do not stand for no category, and
keywords are not blank and differ within each category in lower case. -/
structure IsWellFormed (d : CategoryDictionary) : Prop where
  names_distinct : (d.names.map Text.lower).Nodup
  names_normalized : ∀ name ∈ d.names, normalize name = name
  names_unreserved : ∀ name ∈ d.names, Text.lower name ≠ Text.lower uncategorized
  keywords_not_blank : ∀ e ∈ d.entries, ∀ k ∈ e.keywords, Text.isBlank k = false
  keywords_distinct : ∀ e ∈ d.entries, (e.keywords.map Text.lower).Nodup

theorem isWellFormed_starter : starter.IsWellFormed where
  names_distinct := by decide +kernel
  names_normalized := by decide +kernel
  names_unreserved := by decide +kernel
  keywords_not_blank := by decide +kernel
  keywords_distinct := by decide +kernel

/-- The dictionary after an edit, the same one if the edit is refused. -/
def editOrKeep (d : CategoryDictionary) (change : Edit) : CategoryDictionary :=
  match d.edit change with
  | .ok d' => d'
  | .error _ => d

/-- The dictionary after edits, of which some may be refused. -/
def edits (d : CategoryDictionary) (changes : List Edit) : CategoryDictionary :=
  changes.foldl editOrKeep d

/-! ### The category that a name means -/

/-- Whether a category has a name that is the normalized `name` in letters of either case. -/
def HasName (d : CategoryDictionary) (name : String) : Prop :=
  ∃ e ∈ d.entries, Text.lower e.name = Text.lower (normalize name)

variable {d d' : CategoryDictionary} {name category keyword : String}

theorem find?_eq_none_iff : d.find? name = none ↔ ¬d.HasName name := by
  rw [find?, List.find?_eq_none, HasName, not_exists]
  simp only [beq_iff_eq, CategoryName.key, not_and]

theorem hasName_of_find? {e : CategoryEntry} (h : d.find? name = some e) : d.HasName name := by
  by_contra hnot
  rw [find?_eq_none_iff.2 hnot] at h
  cases h

/-! ### What an edit does -/

/-- A category is refused for its name, or because the name is taken, or it comes behind the
others. -/
theorem addCategory_cases (d : CategoryDictionary) (name : String) (keyword : Option String) :
    (¬CategoryName.IsValid name ∧
      ∃ fault, d.addCategory name keyword = .error (.invalidName name fault)) ∨
    (CategoryName.IsValid name ∧ d.HasName name ∧
      ∃ existing, d.addCategory name keyword = .error (.nameTaken existing)) ∨
    (CategoryName.IsValid name ∧ ¬d.HasName name ∧
      ∃ d', d.addCategory name keyword = .ok d' ∧
        d'.entries = d.entries ++ [⟨normalize name, firstKeywords keyword⟩]) := by
  unfold addCategory
  split
  · next fault hfault =>
    refine Or.inl ⟨fun hvalid => ?_, fault, rfl⟩
    rw [CategoryName.fault?_eq_none_iff.2 hvalid] at hfault
    cases hfault
  next hfault =>
  have hvalid := CategoryName.fault?_eq_none_iff.1 hfault
  split
  · next existing hfound =>
    exact Or.inr (Or.inl ⟨hvalid, hasName_of_find? hfound, existing.name, rfl⟩)
  · next hnone => exact Or.inr (Or.inr ⟨hvalid, find?_eq_none_iff.1 hnone, _, rfl, rfl⟩)

/-- A keyword is refused because it is blank, or for want of its category, or it comes behind the
others of the category that is meant, unless that has it. -/
theorem addKeyword_cases (d : CategoryDictionary) (category keyword : String) :
    (Text.isBlank keyword = true ∧ d.addKeyword category keyword = .error .blankKeyword) ∨
    (Text.isBlank keyword = false ∧ ¬d.HasName category ∧
      d.addKeyword category keyword = .error (.unknownCategory category)) ∨
    (Text.isBlank keyword = false ∧ d.HasName category ∧
      ∃ target, d.find? category = some target ∧
        d.addKeyword category keyword = .ok (if target.hasKeyword (Text.trim keyword) then d
          else d.extend target.name (Text.trim keyword))) := by
  unfold addKeyword
  dsimp only
  rw [Text.isEmpty_trim]
  split
  · next hblank => exact Or.inl ⟨hblank, rfl⟩
  next hblank =>
  have hblank := Bool.eq_false_iff.2 hblank
  split
  · next hnone => exact Or.inr (Or.inl ⟨hblank, find?_eq_none_iff.1 hnone, rfl⟩)
  · next target hfound =>
    exact Or.inr (Or.inr ⟨hblank, hasName_of_find? hfound, target, hfound, rfl⟩)

/-! ### A single edit -/

/-- The first keyword of a new category is not blank. -/
theorem isBlank_of_mem_firstKeywords {keyword : Option String} {k : String}
    (h : k ∈ firstKeywords keyword) : Text.isBlank k = false := by
  unfold firstKeywords at h
  dsimp only at h
  split at h
  · exact absurd h List.not_mem_nil
  · next hnot =>
    rw [List.mem_singleton.1 h, ← Text.isEmpty_trim, Text.trim_trim]
    exact Bool.eq_false_iff.2 hnot

theorem nodup_firstKeywords (keyword : Option String) :
    ((firstKeywords keyword).map Text.lower).Nodup := by
  unfold firstKeywords
  dsimp only
  split
  · exact List.nodup_nil
  · exact List.nodup_singleton _

/-- A valid name that no category has keeps a dictionary well formed. -/
theorem isWellFormed_of_append (hd : d.IsWellFormed) (hvalid : CategoryName.IsValid name)
    (hnew : ¬d.HasName name) {keyword : Option String}
    (h : d'.entries = d.entries ++ [⟨normalize name, firstKeywords keyword⟩]) :
    d'.IsWellFormed := by
  have hnames : d'.names = d.names ++ [normalize name] := by
    rw [names, h, List.map_append]
    rfl
  constructor
  · rw [hnames, List.map_append, List.map_singleton]
    refine List.nodup_append.2 ⟨hd.names_distinct, List.nodup_singleton _, ?_⟩
    rintro low hlow low' hlow' rfl
    -- a name that is the new one in lower case would have been found
    rw [List.mem_singleton] at hlow'
    obtain ⟨other, hother, rfl⟩ := List.mem_map.1 hlow
    obtain ⟨e, he, rfl⟩ := List.mem_map.1 hother
    exact hnew ⟨e, he, hlow'⟩
  · rw [hnames, List.forall_mem_append]
    refine ⟨hd.names_normalized, fun other hother => ?_⟩
    rw [List.mem_singleton.1 hother, CategoryName.normalize_normalize]
  · rw [hnames, List.forall_mem_append]
    refine ⟨hd.names_unreserved, fun other hother => ?_⟩
    rw [List.mem_singleton.1 hother]
    exact hvalid.unreserved
  · rw [h, List.forall_mem_append]
    refine ⟨hd.keywords_not_blank, fun e he k hk => ?_⟩
    rw [List.mem_singleton.1 he] at hk
    dsimp only at hk
    exact isBlank_of_mem_firstKeywords hk
  · rw [h, List.forall_mem_append]
    refine ⟨hd.keywords_distinct, fun e he => ?_⟩
    rw [List.mem_singleton.1 he]
    dsimp only
    exact nodup_firstKeywords keyword

/-- A keyword that the category does not have, in letters of either case, keeps a dictionary well
formed. -/
theorem isWellFormed_extend (hd : d.IsWellFormed) {target : CategoryEntry}
    (htarget : target ∈ d.entries) (hblank : Text.isBlank keyword = false)
    (hnew : target.hasKeyword keyword = false) : (d.extend target.name keyword).IsWellFormed := by
  have hnames : (d.extend target.name keyword).names = d.names := names_extend d target.name keyword
  constructor
  · rw [hnames]
    exact hd.names_distinct
  · rw [hnames]
    exact hd.names_normalized
  · rw [hnames]
    exact hd.names_unreserved
  · intro e' he' k hk
    obtain ⟨e, he, rfl⟩ := List.mem_map.1 he'
    unfold extendNamed at hk
    split at hk
    · rcases List.mem_append.1 hk with hk | hk
      · exact hd.keywords_not_blank e he k hk
      · rw [List.mem_singleton.1 hk]
        exact hblank
    · exact hd.keywords_not_blank e he k hk
  · intro e' he'
    obtain ⟨e, he, rfl⟩ := List.mem_map.1 he'
    unfold extendNamed
    split
    · next hname =>
      -- the names differ, so the category that is extended is the one that was looked at
      have hsame : e = target := List.inj_on_of_nodup_map d.distinct he htarget hname
      subst hsame
      rw [List.map_append, List.map_singleton]
      refine List.nodup_append.2 ⟨hd.keywords_distinct e he, List.nodup_singleton _, ?_⟩
      rintro low hlow low' hlow' rfl
      rw [List.mem_singleton] at hlow'
      obtain ⟨k, hk, hlower⟩ := List.mem_map.1 hlow
      have hfound : e.hasKeyword keyword = true :=
        List.any_eq_true.2 ⟨k, hk, beq_iff_eq.2 (hlower.trans hlow')⟩
      rw [hnew] at hfound
      cases hfound
    · exact hd.keywords_distinct e he

/-- An edit that succeeds keeps a dictionary well formed. -/
theorem isWellFormed_edit {change : Edit} (hd : d.IsWellFormed) (h : d.edit change = .ok d') :
    d'.IsWellFormed := by
  cases change with
  | addCategory name keyword =>
    change d.addCategory name keyword = .ok d' at h
    rcases d.addCategory_cases name keyword with
      ⟨-, fault, heq⟩ | ⟨-, -, existing, heq⟩ | ⟨hvalid, hnew, extended, heq, hentries⟩
    · rw [heq] at h
      cases h
    · rw [heq] at h
      cases h
    · rw [heq] at h
      cases h
      exact isWellFormed_of_append hd hvalid hnew hentries
  | addKeyword category keyword =>
    change d.addKeyword category keyword = .ok d' at h
    rcases d.addKeyword_cases category keyword with
      ⟨-, heq⟩ | ⟨-, -, heq⟩ | ⟨hblank, -, target, hfound, heq⟩
    · rw [heq] at h
      cases h
    · rw [heq] at h
      cases h
    · rw [heq] at h
      cases h
      split
      · exact hd
      · next hnew =>
        refine isWellFormed_extend hd (List.mem_of_find?_eq_some hfound) ?_
          (Bool.eq_false_iff.2 hnew)
        rw [← Text.isEmpty_trim, Text.trim_trim, Text.isEmpty_trim]
        exact hblank

/-! ### Refusals -/

/-- The entries of which an edit makes a dictionary: a new one behind the others, or one that is
replaced under its name. -/
def editedEntries (d : CategoryDictionary) : Edit → List CategoryEntry
  | .addCategory name keyword => d.entries ++ [⟨normalize name, firstKeywords keyword⟩]
  | .addKeyword category keyword =>
    match d.find? category with
    | none => d.entries
    | some target =>
      if target.hasKeyword (Text.trim keyword) then d.entries
      else d.entries.map fun e =>
        if e.name = target.name then ⟨target.name, target.keywords ++ [Text.trim keyword]⟩ else e

/-- Which edits of a dictionary are refused, and why: a category exactly for an invalid name or one
that is there, a keyword exactly when it is blank or else has no category.  What an edit makes is a
dictionary, so no edit fails for a name that occurs again. -/
structure AnswersEdits (d : CategoryDictionary) : Prop where
  invalidName_iff : ∀ name keyword,
    (∃ fault, d.addCategory name keyword = .error (.invalidName name fault)) ↔
      ¬CategoryName.IsValid name
  nameTaken_iff : ∀ name keyword,
    (∃ existing, d.addCategory name keyword = .error (.nameTaken existing)) ↔
      CategoryName.IsValid name ∧ d.HasName name
  addCategory_refused : ∀ name keyword e, d.addCategory name keyword = .error e →
    (∃ fault, e = .invalidName name fault) ∨ ∃ existing, e = .nameTaken existing
  blankKeyword_iff : ∀ category keyword,
    d.addKeyword category keyword = .error .blankKeyword ↔ Text.isBlank keyword = true
  unknownCategory_iff : ∀ category keyword,
    d.addKeyword category keyword = .error (.unknownCategory category) ↔
      Text.isBlank keyword = false ∧ ¬d.HasName category
  addKeyword_refused : ∀ category keyword e, d.addKeyword category keyword = .error e →
    e = .blankKeyword ∨ e = .unknownCategory category
  ofEntries_editedEntries : ∀ change d', d.edit change = .ok d' →
    ofEntries (d.editedEntries change) = .ok d'

/-- What an edit that succeeds makes of a dictionary are the entries for it. -/
theorem editedEntries_eq {change : Edit} (h : d.edit change = .ok d') :
    d.editedEntries change = d'.entries := by
  cases change with
  | addCategory name keyword =>
    change d.addCategory name keyword = .ok d' at h
    exact (entries_addCategory h).1.symm
  | addKeyword category keyword =>
    change d.addKeyword category keyword = .ok d' at h
    rcases d.addKeyword_cases category keyword with
      ⟨-, heq⟩ | ⟨-, -, heq⟩ | ⟨-, -, target, hfound, heq⟩
    · rw [heq] at h
      cases h
    · rw [heq] at h
      cases h
    · rw [heq] at h
      cases h
      rw [editedEntries, hfound]
      dsimp only
      split
      · rfl
      · refine List.map_congr_left fun e he => ?_
        unfold extendNamed
        split
        · next hname =>
          have hsame : e = target :=
            List.inj_on_of_nodup_map d.distinct he (List.mem_of_find?_eq_some hfound) hname
          rw [hsame]
        · rfl

theorem answersEdits (d : CategoryDictionary) : d.AnswersEdits where
  invalidName_iff := by
    intro name keyword
    rcases d.addCategory_cases name keyword with
      ⟨hinvalid, h⟩ | ⟨hvalid, -, existing, h⟩ | ⟨hvalid, -, d', h, -⟩
    · exact iff_of_true h hinvalid
    · refine iff_of_false ?_ (not_not_intro hvalid)
      rintro ⟨fault, hfault⟩
      rw [h] at hfault
      cases hfault
    · refine iff_of_false ?_ (not_not_intro hvalid)
      rintro ⟨fault, hfault⟩
      rw [h] at hfault
      cases hfault
  nameTaken_iff := by
    intro name keyword
    rcases d.addCategory_cases name keyword with
      ⟨hinvalid, fault, h⟩ | ⟨hvalid, hname, h⟩ | ⟨hvalid, hnew, d', h, -⟩
    · refine iff_of_false ?_ (fun hboth => hinvalid hboth.1)
      rintro ⟨existing, htaken⟩
      rw [h] at htaken
      cases htaken
    · exact iff_of_true h ⟨hvalid, hname⟩
    · refine iff_of_false ?_ (fun hboth => hnew hboth.2)
      rintro ⟨existing, htaken⟩
      rw [h] at htaken
      cases htaken
  addCategory_refused := by
    intro name keyword e he
    rcases d.addCategory_cases name keyword with
      ⟨-, fault, h⟩ | ⟨-, -, existing, h⟩ | ⟨-, -, d', h, -⟩
    · rw [h] at he
      cases he
      exact Or.inl ⟨fault, rfl⟩
    · rw [h] at he
      cases he
      exact Or.inr ⟨existing, rfl⟩
    · rw [h] at he
      cases he
  blankKeyword_iff := by
    intro category keyword
    rcases d.addKeyword_cases category keyword with
      ⟨hblank, h⟩ | ⟨hblank, -, h⟩ | ⟨hblank, -, target, -, h⟩
    · exact iff_of_true h hblank
    · rw [h, hblank]
      exact iff_of_false (by rintro ⟨⟩) (by decide)
    · rw [h, hblank]
      exact iff_of_false (by rintro ⟨⟩) (by decide)
  unknownCategory_iff := by
    intro category keyword
    rcases d.addKeyword_cases category keyword with
      ⟨hblank, h⟩ | ⟨hblank, hunknown, h⟩ | ⟨-, hknown, target, -, h⟩
    · rw [h, hblank]
      refine iff_of_false (by rintro ⟨⟩) ?_
      rintro ⟨⟨⟩, -⟩
    · exact iff_of_true h ⟨hblank, hunknown⟩
    · rw [h]
      exact iff_of_false (by rintro ⟨⟩) fun hboth => hboth.2 hknown
  addKeyword_refused := by
    intro category keyword e he
    rcases d.addKeyword_cases category keyword with
      ⟨-, h⟩ | ⟨-, -, h⟩ | ⟨-, -, target, -, h⟩
    · rw [h] at he
      cases he
      exact Or.inl rfl
    · rw [h] at he
      cases he
      exact Or.inr rfl
    · rw [h] at he
      cases he
  ofEntries_editedEntries := by
    intro change d' h
    rw [editedEntries_eq h, ofEntries_entries]

/-! ### Many edits -/

/-- Edits, refused ones among them, keep a dictionary well formed, and each category stays at its
place under its name, with its keywords in front. -/
theorem wellFormed_edits (hd : d.IsWellFormed) (changes : List Edit) :
    (d.edits changes).IsWellFormed ∧ d.Extends (d.edits changes) := by
  unfold edits
  induction changes generalizing d with
  | nil => exact ⟨hd, .refl d⟩
  | cons change changes ih =>
    rw [List.foldl_cons, editOrKeep]
    split
    · next d' h =>
      obtain ⟨hwellFormed, hextends⟩ := ih (isWellFormed_edit hd h)
      exact ⟨hwellFormed, (extends_edit h).trans hextends⟩
    · exact ih hd

/-- **Edits keep a dictionary well formed.**  Whatever edits are made of a well-formed dictionary,
such as the one to begin with, and however many are refused: the result is well formed, the
categories that were there are still there in order, each with its keywords in front of the new
ones, and the next edit is refused exactly for a reason in its arguments and the names that are
there. -/
theorem isWellFormed_edits (hd : d.IsWellFormed) (changes : List Edit) :
    starter.IsWellFormed ∧ (d.edits changes).IsWellFormed ∧ d.Extends (d.edits changes) ∧
      (d.edits changes).AnswersEdits := by
  obtain ⟨hwellFormed, hextends⟩ := wellFormed_edits hd changes
  exact ⟨isWellFormed_starter, hwellFormed, hextends, answersEdits _⟩

/-- A category is added, then refused in other letters, and given a keyword. -/
theorem isWellFormed_edits_starter :
    let changes : List Edit :=
      [.addCategory " Tea " none, .addCategory "TEA" none, .addKeyword "tea" "Oolong "]
    starter.IsWellFormed ∧
      (starter.edits changes).entries = starter.entries ++ [⟨"Tea", ["Oolong"]⟩] ∧
      (starter.edits changes).IsWellFormed := by
  intro changes
  refine ⟨isWellFormed_starter, by decide +kernel, ?_⟩
  exact (isWellFormed_edits isWellFormed_starter changes).2.1

end CategoryDictionary

end SpendingLedger

import Mathlib.Data.List.Nodup
import SpendingLedger.Category.Resolve

/-!
# What settles the category of a description

A description is resolved by the first of several tiers that settles on one category: the most
keyword hits, a mention of the name among those with as many, the most similar name, and at last the
first category with a hit.  `Settles` says when each tier decides, and the resolution is the only
one that it allows.  More keyword hits win unless a tie is left open by all the tiers: then the
first category with a hit is found, and another one may have more.

## Main definitions

* `CategoryEntry.IsHit`, `CategoryEntry.IsSimilar` — a category is hinted at by a keyword or by its
  name.
* `Resolution.Settles` — the tiers, each with the condition under which it decides.
* `Resolution.IsOpen` — whether no tier before the last decides between those with the most hits.

## Main results

* `Resolution.ofText_eq_iff` — a text is resolved as the tiers settle it.
* `Resolution.ofText_of_dominant` — strictly more hits than any other category win.
* `resolve_mostHit_or_firstHit` — **the category that is found has the most hits, or it is the first
  one with a hit and the tie was left open.**
-/

namespace SpendingLedger

/-- The text in which keywords and names are looked for. -/
def loweredText (description : Option String) : List Char :=
  Text.lowerChars (description.getD "").toList

theorem resolve_eq (description : Option String) (d : CategoryDictionary) (threshold : Binary64) :
    resolve description d threshold = .ofText (loweredText description) d.entries threshold := rfl

variable {text : List Char} {entries : List CategoryEntry} {threshold : Binary64}

/-! ### Hints at a category -/

namespace CategoryEntry

/-- Whether a keyword is in a text in lower case; the empty one is in none. -/
def Hits (keyword : String) (text : List Char) : Prop :=
  keyword ≠ "" ∧ Text.occursIn (Text.lowerChars keyword.toList) text = true

instance (keyword : String) (text : List Char) : Decidable (Hits keyword text) :=
  inferInstanceAs (Decidable (_ ∧ _))

/-- Whether a keyword of a category is in a text in lower case. -/
def IsHit (e : CategoryEntry) (text : List Char) : Prop :=
  ∃ k ∈ e.keywords, Hits k text

/-- Whether the name of a category is similar enough to a text in lower case. -/
def IsSimilar (e : CategoryEntry) (text : List Char) (threshold : Binary64) : Prop :=
  threshold.le (e.nameScore text) = true

instance (e : CategoryEntry) (text : List Char) : Decidable (e.IsHit text) :=
  inferInstanceAs (Decidable (∃ k ∈ e.keywords, _))

instance (e : CategoryEntry) (text : List Char) (threshold : Binary64) :
    Decidable (e.IsSimilar text threshold) :=
  inferInstanceAs (Decidable (_ = true))

/-- The hits are the keywords that are in the text. -/
theorem hitCount_eq (e : CategoryEntry) (text : List Char) :
    e.hitCount text = e.keywords.countP (Hits · text) := by
  refine List.countP_congr fun k _ => ?_
  rw [decide_eq_true_iff, Hits, Bool.and_eq_true, decide_eq_true_iff]

theorem hitCount_pos_iff {e : CategoryEntry} : 0 < e.hitCount text ↔ e.IsHit text := by
  simp [hitCount_eq, IsHit, List.countP_pos_iff]

theorem hitCount_eq_zero_iff {e : CategoryEntry} : e.hitCount text = 0 ↔ ¬ e.IsHit text := by
  rw [← hitCount_pos_iff, Nat.pos_iff_ne_zero, not_not]

end CategoryEntry

namespace Resolution

/-! ### The most hits -/

theorem foldl_hitCount_le_iff {start n : Nat} :
    entries.foldl (fun m e => max m (e.hitCount text)) start ≤ n ↔
      start ≤ n ∧ ∀ e ∈ entries, e.hitCount text ≤ n := by
  induction entries generalizing start with
  | nil => simp
  | cons e rest ih => rw [List.foldl_cons, ih, Nat.max_le, List.forall_mem_cons, and_assoc]

theorem topCount_le_iff {n : Nat} :
    topCount text entries ≤ n ↔ ∀ e ∈ entries, e.hitCount text ≤ n := by
  rw [topCount, foldl_hitCount_le_iff, and_iff_right (Nat.zero_le n)]

theorem hitCount_le_topCount {e : CategoryEntry} (he : e ∈ entries) :
    e.hitCount text ≤ topCount text entries :=
  topCount_le_iff.1 (Nat.le_refl _) e he

/-- An entry with as many hits as any has the greatest number of them. -/
theorem topCount_eq {e : CategoryEntry} (he : e ∈ entries)
    (hmost : ∀ x ∈ entries, x.hitCount text ≤ e.hitCount text) :
    topCount text entries = e.hitCount text :=
  Nat.le_antisymm (topCount_le_iff.2 hmost) (hitCount_le_topCount he)

theorem exists_hitCount_eq_topCount (h : 0 < topCount text entries) :
    ∃ e ∈ entries, e.hitCount text = topCount text entries := by
  by_contra hnone
  have hless : topCount text entries ≤ topCount text entries - 1 := by
    refine topCount_le_iff.2 fun e he => ?_
    have hne : e.hitCount text ≠ topCount text entries := fun heq => hnone ⟨e, he, heq⟩
    have hle : e.hitCount text ≤ topCount text entries := hitCount_le_topCount he
    omega
  omega

theorem mem_top_iff {e : CategoryEntry} :
    e ∈ top text entries ↔
      e ∈ entries ∧ 0 < e.hitCount text ∧ e.hitCount text = topCount text entries := by
  simp [top]

theorem mem_of_mem_top {e : CategoryEntry} (h : e ∈ top text entries) : e ∈ entries :=
  (mem_top_iff.1 h).1

theorem hitCount_le_of_mem_top {e x : CategoryEntry} (he : e ∈ top text entries)
    (hx : x ∈ entries) : x.hitCount text ≤ e.hitCount text := by
  rw [(mem_top_iff.1 he).2.2]
  exact hitCount_le_topCount hx

/-- None has the most hits exactly when there is no hit. -/
theorem top_eq_nil_iff : top text entries = [] ↔ ∀ e ∈ entries, e.hitCount text = 0 := by
  rw [List.eq_nil_iff_forall_not_mem]
  constructor
  · intro hnone e he
    by_contra hne
    have hle : e.hitCount text ≤ topCount text entries := hitCount_le_topCount he
    obtain ⟨m, hm, hmost⟩ : ∃ m ∈ entries, m.hitCount text = topCount text entries :=
      exists_hitCount_eq_topCount (by omega)
    exact hnone m (mem_top_iff.2 ⟨hm, by omega, hmost⟩)
  · intro hzero e he
    obtain ⟨hmem, hpos, -⟩ := mem_top_iff.1 he
    have := hzero e hmem
    omega

/-! ### Similar names -/

/-- The greater of two scores taken over and over leaves one of the scores. -/
theorem foldl_greater_mem (best : String × Binary64) (rest : List (String × Binary64)) :
    rest.foldl (fun best q => if best.2.lt q.2 then q else best) best ∈ best :: rest := by
  induction rest generalizing best with
  | nil => exact List.mem_cons_self
  | cons q rest ih =>
    rw [List.foldl_cons]
    rcases List.mem_cons.1 (ih (if best.2.lt q.2 then q else best)) with heq | hmem
    · rw [heq]
      split
      · exact List.mem_cons_of_mem _ List.mem_cons_self
      · exact List.mem_cons_self
    · exact List.mem_cons_of_mem _ (List.mem_cons_of_mem _ hmem)

theorem mem_of_bestOf {ps : List (String × Binary64)} {p : String × Binary64}
    (h : bestOf ps = some p) : p ∈ ps := by
  cases ps with
  | nil => cases h
  | cons q rest =>
    cases h
    exact foldl_greater_mem q rest

theorem bestOf_eq_none_iff {ps : List (String × Binary64)} : bestOf ps = none ↔ ps = [] := by
  cases ps <;> simp [bestOf]

/-- A similar name is that of a candidate that is similar enough. -/
theorem exists_of_bestSimilar {candidates : List CategoryEntry} {p : String × Binary64}
    (h : bestSimilar text candidates threshold = some p) :
    ∃ e ∈ candidates, p.1 = e.name ∧ e.IsSimilar text threshold := by
  obtain ⟨hmem, hsimilar⟩ := List.mem_filter.1 (mem_of_bestOf h)
  obtain ⟨e, he, rfl⟩ := List.mem_map.1 hmem
  exact ⟨e, he, rfl, hsimilar⟩

/-- There is no similar name exactly when no candidate is similar enough. -/
theorem bestSimilar_eq_none_iff {candidates : List CategoryEntry} :
    bestSimilar text candidates threshold = none ↔
      ∀ e ∈ candidates, ¬ e.IsSimilar text threshold := by
  rw [bestSimilar, bestOf_eq_none_iff, List.filter_eq_nil_iff, List.forall_mem_map]
  rfl

/-! ### The tiers -/

/-- The resolution that the tiers settle on. -/
inductive Settles (text : List Char) (entries : List CategoryEntry) (threshold : Binary64) :
    Resolution → Prop
  /-- Just one category has the most hits. -/
  | tally {e : CategoryEntry} (htop : top text entries = [e]) :
    Settles text entries threshold (.tally e.name (topCount text entries))
  /-- Just one of those with the most hits is mentioned. -/
  | mention {e : CategoryEntry} (htied : 1 < (top text entries).length)
    (hone : (top text entries).filter (·.isMentioned text) = [e]) :
    Settles text entries threshold (.mention e.name (topCount text entries))
  /-- None of them or several are mentioned, and one of them is the most similar. -/
  | similarAmongTied {name : String} {score : Binary64} (htied : 1 < (top text entries).length)
    (hmany : ((top text entries).filter (·.isMentioned text)).length ≠ 1)
    (hbest : bestSimilar text (top text entries) threshold = some (name, score)) :
    Settles text entries threshold (.similarAmongTied name (topCount text entries) score)
  /-- There is no hit, and one of all categories is the most similar. -/
  | similarName {name : String} {score : Binary64} (hnone : top text entries = [])
    (hbest : bestSimilar text entries threshold = some (name, score)) :
    Settles text entries threshold (.similarName name score)
  /-- Nothing decides between those with the most hits, so it is the first one with any. -/
  | firstHit {e : CategoryEntry} (htied : 1 < (top text entries).length)
    (hmany : ((top text entries).filter (·.isMentioned text)).length ≠ 1)
    (hdissimilar : bestSimilar text (top text entries) threshold = none)
    (hfirst : entries.find? (fun e => 0 < e.hitCount text) = some e) :
    Settles text entries threshold (.firstHit e.name)
  /-- There is no hit, and no category is similar enough. -/
  | unresolved (hnone : top text entries = [])
    (hdissimilar : bestSimilar text entries threshold = none) :
    Settles text entries threshold .unresolved

/-- Where some category has the most hits there is a first one with a hit. -/
theorem exists_find?_of_mem_top {e : CategoryEntry} (he : e ∈ top text entries) :
    ∃ x, entries.find? (fun e => 0 < e.hitCount text) = some x := by
  obtain ⟨hmem, hpos, -⟩ := mem_top_iff.1 he
  exact Option.isSome_iff_exists.1 (List.find?_isSome.2 ⟨e, hmem, by simpa using hpos⟩)

theorem find?_eq_none_of_top_eq_nil (h : top text entries = []) :
    entries.find? (fun e => 0 < e.hitCount text) = none := by
  refine List.find?_eq_none.2 fun e he => ?_
  simp [top_eq_nil_iff.1 h e he]

/-- The tiers settle on the resolution. -/
theorem settles_ofText : Settles text entries threshold (ofText text entries threshold) := by
  unfold ofText
  dsimp only
  split
  · next hnone =>
    split
    · next hbest => exact .similarName hnone hbest
    · next hdissimilar =>
      rw [ofFirstHit, find?_eq_none_of_top_eq_nil hnone]
      exact .unresolved hnone hdissimilar
  · next htop => exact .tally htop
  · next hsome hmore =>
    have htied : 1 < (top text entries).length := by
      rcases htop : top text entries with _ | ⟨e, _ | ⟨x, rest⟩⟩
      · exact absurd htop hsome
      · exact absurd htop (hmore e)
      · simp
    split
    · next hone => exact .mention htied hone
    · next hnot =>
      have hmany : ((top text entries).filter (·.isMentioned text)).length ≠ 1 := by
        intro hone
        obtain ⟨e, he⟩ := List.length_eq_one_iff.1 hone
        exact hnot e he
      split
      · next hbest => exact .similarAmongTied htied hmany hbest
      · next hdissimilar =>
        obtain ⟨e, he⟩ := List.exists_mem_of_length_pos (Nat.zero_lt_of_lt htied)
        obtain ⟨x, hfirst⟩ := exists_find?_of_mem_top he
        rw [ofFirstHit, hfirst]
        exact .firstHit htied hmany hdissimilar hfirst

/-- The tiers settle on one resolution only. -/
theorem ofText_of_settles {r : Resolution} (h : Settles text entries threshold r) :
    ofText text entries threshold = r := by
  have hlist : 1 < (top text entries).length → ∃ e x rest, top text entries = e :: x :: rest := by
    intro htied
    rcases htop : top text entries with _ | ⟨e, _ | ⟨x, rest⟩⟩
    · simp [htop] at htied
    · simp [htop] at htied
    · exact ⟨e, x, rest, rfl⟩
  unfold ofText
  dsimp only
  cases h with
  | tally htop => rw [htop]
  | mention htied hone =>
    obtain ⟨e, x, rest, htop⟩ := hlist htied
    rw [htop] at hone ⊢
    dsimp only
    rw [hone]
  | similarAmongTied htied hmany hbest =>
    obtain ⟨e, x, rest, htop⟩ := hlist htied
    rw [htop] at hmany hbest ⊢
    dsimp only
    rw [hbest]
    split
    · next hone => exact absurd (congrArg List.length hone) hmany
    · rfl
  | similarName hnone hbest =>
    rw [hnone]
    dsimp only
    rw [hbest]
  | firstHit htied hmany hdissimilar hfirst =>
    obtain ⟨e, x, rest, htop⟩ := hlist htied
    rw [htop] at hmany hdissimilar ⊢
    dsimp only
    rw [hdissimilar, ofFirstHit, hfirst]
    split
    · next hone => exact absurd (congrArg List.length hone) hmany
    · rfl
  | unresolved hnone hdissimilar =>
    rw [hnone]
    dsimp only
    rw [hdissimilar, ofFirstHit, find?_eq_none_of_top_eq_nil hnone]

/-- A text is resolved as the tiers settle it. -/
theorem ofText_eq_iff {r : Resolution} :
    ofText text entries threshold = r ↔ Settles text entries threshold r :=
  ⟨fun h => h ▸ settles_ofText, ofText_of_settles⟩

/-- Strictly more hits than any other category win. -/
theorem ofText_of_dominant {e : CategoryEntry} (hnodup : entries.Nodup) (he : e ∈ entries)
    (hpos : 0 < e.hitCount text)
    (hless : ∀ x ∈ entries, x ≠ e → x.hitCount text < e.hitCount text) :
    ofText text entries threshold = .tally e.name (e.hitCount text) := by
  have hmost : topCount text entries = e.hitCount text := by
    refine topCount_eq he fun x hx => ?_
    rcases eq_or_ne x e with rfl | hxe
    · exact Nat.le_refl _
    · exact Nat.le_of_lt (hless x hx hxe)
  have htop : top text entries = [e] := by
    refine List.perm_singleton.1 ((List.perm_ext_iff_of_nodup (hnodup.filter _) (by simp)).2 ?_)
    intro x
    rw [← top, mem_top_iff, List.mem_singleton]
    constructor
    · rintro ⟨hx, -, hxmost⟩
      by_contra hxe
      have := hless x hx hxe
      omega
    · rintro rfl
      exact ⟨he, hpos, hmost.symm⟩
  rw [ofText_eq_iff, ← hmost]
  exact .tally htop

/-- A text stays unresolved exactly when no keyword and no name hints at a category. -/
theorem ofText_eq_unresolved_iff :
    ofText text entries threshold = .unresolved ↔
      ∀ e ∈ entries, ¬ e.IsHit text ∧ ¬ e.IsSimilar text threshold := by
  rw [ofText_eq_iff]
  constructor
  · rintro (_ | _ | _ | _ | _ | ⟨hnone, hdissimilar⟩)
    intro e he
    exact ⟨CategoryEntry.hitCount_eq_zero_iff.1 (top_eq_nil_iff.1 hnone e he),
      bestSimilar_eq_none_iff.1 hdissimilar e he⟩
  · intro h
    exact .unresolved
      (top_eq_nil_iff.2 fun e he => CategoryEntry.hitCount_eq_zero_iff.2 (h e he).1)
      (bestSimilar_eq_none_iff.2 fun e he => (h e he).2)

/-! ### The most hits and the first one -/

/-- Whether no tier before the last decides between the categories with the most hits: there are
several of them, not just one of them is mentioned, and none has a name that is similar enough. -/
structure IsOpen (text : List Char) (entries : List CategoryEntry) (threshold : Binary64) :
    Prop where
  tied : 1 < (top text entries).length
  mentions : ((top text entries).filter (·.isMentioned text)).length ≠ 1
  dissimilar : ∀ e ∈ top text entries, ¬ e.IsSimilar text threshold

instance (text : List Char) (entries : List CategoryEntry) (threshold : Binary64) :
    Decidable (IsOpen text entries threshold) :=
  decidable_of_iff (1 < (top text entries).length ∧
      ((top text entries).filter (·.isMentioned text)).length ≠ 1 ∧
      ∀ e ∈ top text entries, ¬ e.IsSimilar text threshold)
    ⟨fun ⟨htied, hmentions, hdissimilar⟩ => ⟨htied, hmentions, hdissimilar⟩,
      fun ⟨htied, hmentions, hdissimilar⟩ => ⟨htied, hmentions, hdissimilar⟩⟩

/-- What is known of the category `e` that was found: it has the most hits; or the tie between those
with the most hits is open, and it is the first one with a hit; or there is no hit, and its name is
similar enough. -/
inductive Found (text : List Char) (entries : List CategoryEntry) (threshold : Binary64)
    (e : CategoryEntry) : Prop
  | mostHit (hclosed : ¬ IsOpen text entries threshold) (htop : e ∈ top text entries)
  | firstHit (hopen : IsOpen text entries threshold)
    (hfirst : entries.find? (fun e => 0 < e.hitCount text) = some e)
  | similar (hnone : top text entries = []) (he : e ∈ entries)
    (hsimilar : e.IsSimilar text threshold)

theorem Found.mem {e : CategoryEntry} (h : Found text entries threshold e) : e ∈ entries := by
  cases h with
  | mostHit _ htop => exact mem_of_mem_top htop
  | firstHit _ hfirst => exact List.mem_of_find?_eq_some hfirst
  | similar _ he _ => exact he

/-- A text that is resolved is resolved to a category that is found in one of three ways. -/
theorem exists_found (h : ofText text entries threshold ≠ .unresolved) :
    ∃ e, (ofText text entries threshold).category = e.name ∧ Found text entries threshold e := by
  generalize hr : ofText text entries threshold = r at h
  cases ofText_eq_iff.1 hr with
  | @tally e htop =>
    refine ⟨e, rfl, .mostHit (fun hopen => ?_) (htop ▸ List.mem_singleton_self e)⟩
    have := hopen.tied
    simp [htop] at this
  | @mention e htied hone =>
    have he : e ∈ (top text entries).filter (·.isMentioned text) :=
      hone ▸ List.mem_singleton_self e
    exact ⟨e, rfl, .mostHit (fun hopen => hopen.mentions (congrArg List.length hone))
      (List.mem_filter.1 he).1⟩
  | similarAmongTied htied hmany hbest =>
    obtain ⟨e, he, heq, hsimilar⟩ := exists_of_bestSimilar hbest
    exact ⟨e, heq, .mostHit (fun hopen => hopen.dissimilar e he hsimilar) he⟩
  | similarName hnone hbest =>
    obtain ⟨e, he, heq, hsimilar⟩ := exists_of_bestSimilar hbest
    exact ⟨e, heq, .similar hnone he hsimilar⟩
  | @firstHit e htied hmany hdissimilar hfirst =>
    exact ⟨e, rfl, .firstHit ⟨htied, hmany, bestSimilar_eq_none_iff.1 hdissimilar⟩ hfirst⟩
  | unresolved => exact absurd rfl h

end Resolution

open Resolution in
/-- **The most hits win unless the tie is open.**  Where a keyword of some category is in a
description, the category that is found has a hit.  None has more hits, unless several have more or
as many and neither a mention of just one of their names nor similarity decides between them: then
it is the first category with a hit. -/
theorem resolve_mostHit_or_firstHit {description : Option String} {d : CategoryDictionary}
    {threshold : Binary64} (h : ∃ e ∈ d.entries, e.IsHit (loweredText description)) :
    ∃ e ∈ d.entries, (resolve description d threshold).category = e.name ∧
      e.IsHit (loweredText description) ∧
      (¬ IsOpen (loweredText description) d.entries threshold →
        ∀ x ∈ d.entries, x.hitCount (loweredText description) ≤
          e.hitCount (loweredText description)) ∧
      (IsOpen (loweredText description) d.entries threshold →
        ∃ before after, d.entries = before ++ e :: after ∧
          ∀ x ∈ before, ¬ x.IsHit (loweredText description)) := by
  obtain ⟨hit, hmem, hhit⟩ := h
  have hresolved : ofText (loweredText description) d.entries threshold ≠ .unresolved :=
    fun hnone => (ofText_eq_unresolved_iff.1 hnone hit hmem).1 hhit
  obtain ⟨e, hname, hfound⟩ := exists_found hresolved
  refine ⟨e, hfound.mem, hname, ?_⟩
  cases hfound with
  | mostHit hclosed htop =>
    refine ⟨CategoryEntry.hitCount_pos_iff.1 (mem_top_iff.1 htop).2.1, fun _ x hx => ?_,
      fun hopen => absurd hopen hclosed⟩
    exact hitCount_le_of_mem_top htop hx
  | firstHit hopen hfirst =>
    obtain ⟨hpos, before, after, hsplit, hbefore⟩ := List.find?_eq_some_iff_append.1 hfirst
    refine ⟨CategoryEntry.hitCount_pos_iff.1 (of_decide_eq_true hpos),
      fun hclosed => absurd hopen hclosed, fun _ => ⟨before, after, hsplit, fun x hx => ?_⟩⟩
    have := hbefore x hx
    rw [← CategoryEntry.hitCount_pos_iff]
    simpa using this
  | similar hnone _ _ =>
    exact absurd hhit (CategoryEntry.hitCount_eq_zero_iff.1 (top_eq_nil_iff.1 hnone hit hmem))

/-- One of two categories with a hit has more, and no tie is open. -/
theorem resolve_mostHit_or_firstHit_latte :
    let d : CategoryDictionary := ⟨[⟨"Snacks", ["bar"]⟩, ⟨"Drinks", ["latte", "bar"]⟩], by decide⟩
    let text := loweredText (some "Latte at the bar")
    (∃ e ∈ d.entries, e.IsHit text) ∧
      ¬ Resolution.IsOpen text d.entries defaultNameThreshold ∧
      ∃ e ∈ d.entries, e.name = "Drinks" ∧ ∀ x ∈ d.entries, x.hitCount text ≤ e.hitCount text := by
  intro d text
  have hhit : ∃ e ∈ d.entries, e.IsHit text := by decide +kernel
  have hclosed : ¬ Resolution.IsOpen text d.entries defaultNameThreshold := by decide +kernel
  obtain ⟨e, he, hname, -, hmost, -⟩ := @resolve_mostHit_or_firstHit _ _ defaultNameThreshold hhit
  have hdrinks :
      (resolve (some "Latte at the bar") d defaultNameThreshold).category = "Drinks" := by
    decide +kernel
  exact ⟨hhit, hclosed, e, he, hname.symm.trans hdrinks, hmost hclosed⟩

/-- Where two categories are hit twice, the one that is hit once is found if it is the first. -/
theorem not_mostHit_of_open_tie :
    let d : CategoryDictionary := ⟨[⟨"Snacks", ["bar"]⟩, ⟨"Coffee", ["latte", "espresso"]⟩,
      ⟨"Drinks", ["latte", "espresso"]⟩], by decide⟩
    let text := loweredText (some "Latte, espresso, bar")
    (∃ e ∈ d.entries, e.IsHit text) ∧
      ¬ ∀ e ∈ d.entries,
        (resolve (some "Latte, espresso, bar") d defaultNameThreshold).category = e.name →
          ∀ x ∈ d.entries, x.hitCount text ≤ e.hitCount text := by
  decide +kernel

end SpendingLedger

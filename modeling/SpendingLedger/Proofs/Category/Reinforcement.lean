import Mathlib.Data.List.Find
import Mathlib.Data.List.Perm.Subperm
import SpendingLedger.Proofs.Category.Growth

/-!
# Reinforced categories

A keyword that is added to the category of a description leaves it the category of the description,
whichever tier found it.  A keyword that is not in the description changes nothing.  One that is
makes the category the only one with the most hits if it had as many as any.  Otherwise the category
was found as the first one with a hit while a tie of others was left open: it may join them, but
none of them alone is mentioned or similar enough then, and it is still the first one with a hit.

## Main results

* `Resolution.ofText_map` — a resolution depends on names and hits only.
* `Resolution.isOpen_of_exists_more` — a category with fewer hits than another is found only as the
  first one with a hit.
* `Resolution.category_map_extendNamed` — a text keeps its category when that is given a keyword.
* `resolve_addKeyword_of_resolve` — **a keyword for the category of a description leaves it the
  category.**
-/

namespace SpendingLedger

open CategoryDictionary (extendNamed name_extendNamed)
open CategoryEntry (Hits)

variable {text : List Char} {entries : List CategoryEntry} {threshold : Binary64}
  {name keyword : String} {e : CategoryEntry}

/-! ### What a keyword changes -/

namespace CategoryEntry

theorem extendNamed_of_ne (h : e.name ≠ name) : extendNamed name keyword e = e := if_neg h

/-- A keyword that is in the text is one more hit of its category. -/
theorem hitCount_extendNamed_self (h : Hits keyword text) :
    (extendNamed e.name keyword e).hitCount text = e.hitCount text + 1 := by
  rw [extendNamed, if_pos rfl, hitCount_eq, hitCount_eq, List.countP_append]
  simp [h]

/-- A keyword that is not in the text is no hit. -/
theorem hitCount_extendNamed_of_not_hits (h : ¬ Hits keyword text) (e : CategoryEntry) :
    (extendNamed name keyword e).hitCount text = e.hitCount text := by
  unfold extendNamed
  split
  · rw [hitCount_eq, hitCount_eq, List.countP_append]
    simp [h]
  · rfl

end CategoryEntry

namespace Resolution

/-! ### Names and hits decide -/

section

variable {f : CategoryEntry → CategoryEntry}

theorem top_map (hcount : ∀ e, (f e).hitCount text = e.hitCount text) :
    topCount text (entries.map f) = topCount text entries ∧
      top text (entries.map f) = (top text entries).map f := by
  have htopCount : topCount text (entries.map f) = topCount text entries := by
    simp only [topCount, List.foldl_map, hcount]
  refine ⟨htopCount, ?_⟩
  simp only [top, List.filter_map, Function.comp_def, hcount, htopCount]

theorem bestSimilar_map (hname : ∀ e, (f e).name = e.name) (candidates : List CategoryEntry) :
    bestSimilar text (candidates.map f) threshold = bestSimilar text candidates threshold := by
  simp only [bestSimilar, List.map_map, Function.comp_def, CategoryEntry.nameScore, hname]

/-- A resolution depends on names and hits only. -/
theorem ofText_map (hname : ∀ e, (f e).name = e.name)
    (hcount : ∀ e, (f e).hitCount text = e.hitCount text) :
    ofText text (entries.map f) threshold = ofText text entries threshold := by
  obtain ⟨htopCount, htop⟩ := @top_map text entries f hcount
  have hmentioned : (top text (entries.map f)).filter (·.isMentioned text) =
      ((top text entries).filter (·.isMentioned text)).map f := by
    simp only [htop, List.filter_map, Function.comp_def, CategoryEntry.isMentioned, hname]
  have hfirst : (entries.map f).find? (fun e => 0 < e.hitCount text) =
      (entries.find? fun e => 0 < e.hitCount text).map f := by
    simp only [List.find?_map, Function.comp_def, hcount]
  generalize hr : ofText text entries threshold = r
  rw [ofText_eq_iff]
  cases ofText_eq_iff.1 hr with
  | @tally e hone =>
    rw [← htopCount, ← hname e]
    exact .tally (by rw [htop, hone]; rfl)
  | @mention e htied hone =>
    rw [← htopCount, ← hname e]
    exact .mention (by rw [htop, List.length_map]; exact htied) (by rw [hmentioned, hone]; rfl)
  | similarAmongTied htied hmany hbest =>
    rw [← htopCount]
    refine .similarAmongTied (by rw [htop, List.length_map]; exact htied)
      (by rw [hmentioned, List.length_map]; exact hmany) ?_
    rw [htop, bestSimilar_map hname, hbest]
  | similarName hnone hbest =>
    exact .similarName (by rw [htop, hnone]; rfl) (by rw [bestSimilar_map hname, hbest])
  | @firstHit e htied hmany hdissimilar hhit =>
    rw [← hname e]
    refine .firstHit (by rw [htop, List.length_map]; exact htied)
      (by rw [hmentioned, List.length_map]; exact hmany) ?_ (by rw [hfirst, hhit]; rfl)
    rw [htop, bestSimilar_map hname, hdissimilar]
  | unresolved hnone hdissimilar =>
    exact .unresolved (by rw [htop, hnone]; rfl) (by rw [bestSimilar_map hname, hdissimilar])

end

/-! ### The first category with a hit -/

/-- The first category with a hit is found unless another one is settled on before. -/
theorem category_eq_of_find? (hfirst : entries.find? (fun e => 0 < e.hitCount text) = some e)
    (htop : ∀ x, top text entries = [x] → x = e)
    (hmentioned : ∀ x, (top text entries).filter (·.isMentioned text) = [x] → x = e)
    (hsimilar : ∀ x ∈ top text entries, x.IsSimilar text threshold → x = e) :
    (ofText text entries threshold).category = e.name := by
  have hsome : top text entries ≠ [] := by
    intro hnone
    rw [find?_eq_none_of_top_eq_nil hnone] at hfirst
    cases hfirst
  generalize hr : ofText text entries threshold = r
  cases ofText_eq_iff.1 hr with
  | @tally x hone => exact congrArg CategoryEntry.name (htop x hone)
  | @mention x _ hone => exact congrArg CategoryEntry.name (hmentioned x hone)
  | similarAmongTied _ _ hbest =>
    obtain ⟨x, hx, heq, hxsimilar⟩ := exists_of_bestSimilar hbest
    exact heq.trans (congrArg CategoryEntry.name (hsimilar x hx hxsimilar))
  | similarName hnone => exact absurd hnone hsome
  | firstHit _ _ _ hfound =>
    rw [hfirst] at hfound
    cases hfound
    rfl
  | unresolved hnone => exact absurd hnone hsome

/-! ### A keyword that is in the text -/

section

variable (hnodup : (entries.map CategoryEntry.name).Nodup) (he : e ∈ entries)
  (hhits : Hits keyword text)

include hnodup he in
theorem extendNamed_of_mem {x : CategoryEntry} (hx : x ∈ entries) (hne : x ≠ e) :
    extendNamed e.name keyword x = x :=
  CategoryEntry.extendNamed_of_ne fun hname =>
    hne (List.inj_on_of_nodup_map hnodup hx he hname)

include hnodup he hhits in
/-- A category with as many hits as any has the most when it is given one more. -/
theorem ofText_map_extendNamed_of_most
    (hmost : ∀ x ∈ entries, x.hitCount text ≤ e.hitCount text) :
    ofText text (entries.map (extendNamed e.name keyword)) threshold =
      .tally e.name (e.hitCount text + 1) := by
  have hcount := @CategoryEntry.hitCount_extendNamed_self text keyword e hhits
  have hdistinct : (entries.map (extendNamed e.name keyword)).Nodup := by
    refine List.Nodup.of_map CategoryEntry.name ?_
    simpa [List.map_map, Function.comp_def] using hnodup
  have hdominant := @ofText_of_dominant text (entries.map (extendNamed e.name keyword)) threshold
    (extendNamed e.name keyword e) hdistinct (List.mem_map_of_mem he) (by omega)
  rw [name_extendNamed, hcount] at hdominant
  refine hdominant fun y hy hne => ?_
  obtain ⟨x, hx, rfl⟩ := List.mem_map.1 hy
  by_cases hxe : x = e
  · exact absurd (congrArg _ hxe) hne
  · rw [extendNamed_of_mem hnodup he hx hxe]
    exact Nat.lt_succ_of_le (hmost x hx)

variable (hless : e.hitCount text < topCount text entries)

include hnodup he hhits hless in
/-- A category with fewer hits than another has no more than it when it is given one more. -/
theorem topCount_map_extendNamed :
    topCount text (entries.map (extendNamed e.name keyword)) = topCount text entries := by
  refine Nat.le_antisymm (topCount_le_iff.2 fun y hy => ?_) ?_
  · obtain ⟨x, hx, rfl⟩ := List.mem_map.1 hy
    by_cases hxe : x = e
    · rw [hxe, CategoryEntry.hitCount_extendNamed_self hhits]
      exact hless
    · rw [extendNamed_of_mem hnodup he hx hxe]
      exact hitCount_le_topCount hx
  · obtain ⟨x, hx, hmost⟩ := exists_hitCount_eq_topCount (Nat.zero_lt_of_lt hless)
    have hxe : x ≠ e := by
      rintro rfl
      omega
    rw [← hmost, ← extendNamed_of_mem hnodup he hx hxe]
    exact hitCount_le_topCount (List.mem_map_of_mem hx)

include hnodup he hhits hless in
/-- Then no other category comes to have the most hits or ceases to. -/
theorem mem_top_map_extendNamed_iff {x : CategoryEntry} (hne : x ≠ extendNamed e.name keyword e) :
    x ∈ top text (entries.map (extendNamed e.name keyword)) ↔ x ∈ top text entries := by
  rw [mem_top_iff, mem_top_iff, topCount_map_extendNamed hnodup he hhits hless]
  refine and_congr_left fun ⟨_, hmost⟩ => ⟨fun hx => ?_, fun hx => ?_⟩
  · obtain ⟨y, hy, rfl⟩ := List.mem_map.1 hx
    have hye : y ≠ e := fun heq => hne (congrArg _ heq)
    rw [extendNamed_of_mem hnodup he hy hye]
    exact hy
  · have hxe : x ≠ e := by
      rintro rfl
      omega
    rw [← extendNamed_of_mem hnodup he hx hxe]
    exact List.mem_map_of_mem hx

include hnodup he hhits hless in
/-- Those that had the most hits have them still. -/
theorem top_subset_map_extendNamed :
    top text entries ⊆ top text (entries.map (extendNamed e.name keyword)) := by
  intro x hx
  refine (mem_top_map_extendNamed_iff hnodup he hhits hless ?_).2 hx
  rintro rfl
  have hxe := List.inj_on_of_nodup_map hnodup (mem_of_mem_top hx) he (name_extendNamed _ _ _)
  have hmost := (mem_top_iff.1 hx).2.2
  rw [hxe] at hmost
  omega

include hnodup he hhits in
/-- The first category with a hit is the first one after it is given one more. -/
theorem find?_map_extendNamed (hfirst : entries.find? (fun e => 0 < e.hitCount text) = some e) :
    (entries.map (extendNamed e.name keyword)).find? (fun e => 0 < e.hitCount text) =
      some (extendNamed e.name keyword e) := by
  have hpos := List.find?_some hfirst
  rw [List.find?_map, ← Option.map_some, ← hfirst]
  refine congrArg _ (List.find?_congr fun x hx => ?_)
  rcases eq_or_ne x e with rfl | hxe
  · rw [hpos, Function.comp_apply, CategoryEntry.hitCount_extendNamed_self hhits]
    exact decide_eq_true (Nat.succ_pos _)
  · rw [Function.comp_apply, extendNamed_of_mem hnodup he hx hxe]

include hnodup he hhits hless in
/-- The first category with a hit is found again after it is given one more: the others with the
most hits are as many as before, at least, and what was open between them is open. -/
theorem category_map_extendNamed_of_open (hopen : IsOpen text entries threshold)
    (hfirst : entries.find? (fun e => 0 < e.hitCount text) = some e) :
    (ofText text (entries.map (extendNamed e.name keyword)) threshold).category = e.name := by
  have hdistinct : (top text entries).Nodup := (List.Nodup.of_map _ hnodup).filter _
  have hkept := top_subset_map_extendNamed hnodup he hhits hless
  have htop : ∀ x, top text (entries.map (extendNamed e.name keyword)) = [x] →
      x = extendNamed e.name keyword e := by
    intro x hx
    rw [hx] at hkept
    have hlength := (List.subperm_of_subset hdistinct hkept).length_le
    have := hopen.tied
    rw [List.length_singleton] at hlength
    omega
  have hmentioned : ∀ x, (top text (entries.map (extendNamed e.name keyword))).filter
      (·.isMentioned text) = [x] → x = extendNamed e.name keyword e := by
    intro x hx
    by_contra hne
    -- `x` was mentioned among the old ones, so they are one at least and one at most
    have hxmem : x ∈ [x] := List.mem_singleton_self x
    rw [← hx] at hxmem
    obtain ⟨hxtop, hxmentioned⟩ := List.mem_filter.1 hxmem
    have hxold := (mem_top_map_extendNamed_iff hnodup he hhits hless hne).1 hxtop
    have hpos : 0 < ((top text entries).filter (·.isMentioned text)).length :=
      List.length_pos_of_mem (List.mem_filter.2 ⟨hxold, hxmentioned⟩)
    have hold : (top text entries).filter (·.isMentioned text) ⊆ [x] := by
      rw [← hx]
      exact List.filter_subset _ hkept
    have hlength := (List.subperm_of_subset (hdistinct.filter _) hold).length_le
    have := hopen.mentions
    rw [List.length_singleton] at hlength
    omega
  have hsimilar : ∀ x ∈ top text (entries.map (extendNamed e.name keyword)),
      x.IsSimilar text threshold → x = extendNamed e.name keyword e := by
    intro x hx hxsimilar
    by_contra hne
    have hxold := (mem_top_map_extendNamed_iff hnodup he hhits hless hne).1 hx
    exact hopen.dissimilar x hxold hxsimilar
  rw [category_eq_of_find? (find?_map_extendNamed hnodup he hhits hfirst) htop hmentioned hsimilar,
    name_extendNamed]

end

/-- A category that is found though another one has more hits is the first one with a hit, and the
tie was open. -/
theorem isOpen_of_exists_more (hnodup : (entries.map CategoryEntry.name).Nodup) (he : e ∈ entries)
    (hcategory : (ofText text entries threshold).category = e.name)
    (hmore : ∃ x ∈ entries, e.hitCount text < x.hitCount text) :
    IsOpen text entries threshold ∧
      entries.find? (fun e => 0 < e.hitCount text) = some e := by
  obtain ⟨x, hx, hlt⟩ := hmore
  have hsome : top text entries ≠ [] := by
    intro hnone
    have := top_eq_nil_iff.1 hnone x hx
    omega
  have hresolved : ofText text entries threshold ≠ .unresolved := by
    intro hunresolved
    cases ofText_eq_iff.1 hunresolved with
    | unresolved hnone => exact hsome hnone
  obtain ⟨y, hname, hfound⟩ := exists_found hresolved
  obtain rfl := List.inj_on_of_nodup_map hnodup he hfound.mem (hcategory.symm.trans hname)
  cases hfound with
  | mostHit _ htop => exact absurd hlt (Nat.not_lt.2 (hitCount_le_of_mem_top htop hx))
  | firstHit hopen hfirst => exact ⟨hopen, hfirst⟩
  | similar hnone _ _ => exact absurd hnone hsome

/-- A text keeps its category when that is given a keyword. -/
theorem category_map_extendNamed (hnodup : (entries.map CategoryEntry.name).Nodup)
    (he : e ∈ entries) (hcategory : (ofText text entries threshold).category = e.name) :
    (ofText text (entries.map (extendNamed e.name keyword)) threshold).category = e.name := by
  by_cases hhits : Hits keyword text
  · by_cases hmore : ∃ x ∈ entries, e.hitCount text < x.hitCount text
    · obtain ⟨hopen, hfirst⟩ := isOpen_of_exists_more hnodup he hcategory hmore
      obtain ⟨x, hx, hlt⟩ := hmore
      have hless := Nat.lt_of_lt_of_le hlt (hitCount_le_topCount hx)
      exact category_map_extendNamed_of_open hnodup he hhits hless hopen hfirst
    · have hmost : ∀ x ∈ entries, x.hitCount text ≤ e.hitCount text :=
        fun x hx => Nat.le_of_not_lt fun hlt => hmore ⟨x, hx, hlt⟩
      rw [ofText_map_extendNamed_of_most hnodup he hhits hmost]
      rfl
  · rw [ofText_map (fun x => name_extendNamed _ _ x)
      (fun x => CategoryEntry.hitCount_extendNamed_of_not_hits hhits x)]
    exact hcategory

end Resolution

/-- **A keyword for the category of a description leaves it the category.**  It does so whether or
not the keyword is in the description, and however the category was found. -/
theorem resolve_addKeyword_of_resolve {description : Option String} {d d' : CategoryDictionary}
    {threshold : Binary64} {category keyword : String} {e : CategoryEntry}
    (hcategory : (resolve description d threshold).category = category)
    (hfind : d.find? category = some e) (hname : e.name = category)
    (hadd : d.addKeyword category keyword = .ok d') :
    (resolve description d' threshold).category = category := by
  obtain ⟨target, htarget, rfl | rfl⟩ := CategoryDictionary.exists_of_addKeyword hadd
  · exact hcategory
  · rw [hfind] at htarget
    cases htarget
    subst hname
    exact Resolution.category_map_extendNamed d.distinct (List.mem_of_find?_eq_some hfind) hcategory

/-- A category that was the first one with a hit joins two others that were hit twice. -/
theorem resolve_addKeyword_of_resolve_open_tie :
    let d : CategoryDictionary := ⟨[⟨"Snacks", ["bar"]⟩, ⟨"Coffee", ["latte", "espresso"]⟩,
      ⟨"Drinks", ["latte", "espresso"]⟩], by decide⟩
    let d' := d.extend "Snacks" "Latte"
    let text := loweredText (some "Latte, espresso, bar")
    (resolve (some "Latte, espresso, bar") d defaultNameThreshold).category = "Snacks" ∧
      d.find? "Snacks" = some ⟨"Snacks", ["bar"]⟩ ∧
      d.addKeyword "Snacks" " Latte" = .ok d' ∧
      (Resolution.top text d.entries).length = 2 ∧ (Resolution.top text d'.entries).length = 3 ∧
      (resolve (some "Latte, espresso, bar") d' defaultNameThreshold).category = "Snacks" := by
  intro d d' text
  have hcategory : (resolve (some "Latte, espresso, bar") d defaultNameThreshold).category =
      "Snacks" := by
    decide +kernel
  have hfind : d.find? "Snacks" = some ⟨"Snacks", ["bar"]⟩ := by decide +kernel
  have hadd : d.addKeyword "Snacks" " Latte" = .ok d' := by decide +kernel
  exact ⟨hcategory, hfind, hadd, by decide +kernel, by decide +kernel,
    resolve_addKeyword_of_resolve hcategory hfind rfl hadd⟩

end SpendingLedger

import Mathlib.Data.List.Perm.Basic
import SpendingLedger.Proofs.Category.Contenders

/-!
# Dictionaries in another order

The order of the categories only breaks ties.  Hits and mentions are counted alike in any order, and
so are the contenders.  The leader among them is the same in any order if no other contender has its
score.  So the order has a say in two cases only: two contenders share the greatest score and it
reaches the threshold, or a tie is left open and the first category with a hit is taken.

## Main definitions

* `Resolution.SharesBest` — two candidates share the greatest score, and it reaches the threshold.

## Main results

* `Resolution.isSettledOn_of_perm`, `Resolution.isLeader_of_perm` — what does not depend on the
  order.
* `resolve_perm` — **in all but two cases the category does not depend on the order of the
  dictionary.**
-/

namespace SpendingLedger

variable {text : List Char} {entries entries' candidates candidates' : List CategoryEntry}
  {threshold : Binary64} {e : CategoryEntry}

namespace Resolution

/-! ### Hits and mentions in any order -/

theorem topCount_of_perm (h : entries.Perm entries') :
    topCount text entries = topCount text entries' := by
  refine Nat.le_antisymm (topCount_le_iff.2 fun x hx => ?_) (topCount_le_iff.2 fun x hx => ?_)
  · exact hitCount_le_topCount (h.mem_iff.1 hx)
  · exact hitCount_le_topCount (h.mem_iff.2 hx)

theorem top_perm (h : entries.Perm entries') : (top text entries).Perm (top text entries') := by
  unfold top
  rw [topCount_of_perm h]
  exact h.filter _

theorem mentioned_perm (h : entries.Perm entries') :
    ((top text entries).filter (·.isMentioned text)).Perm
      ((top text entries').filter (·.isMentioned text)) :=
  (top_perm h).filter _

/-- The category that is settled on does not depend on the order. -/
theorem isSettledOn_of_perm (h : entries.Perm entries') (hsettled : IsSettledOn text entries e) :
    IsSettledOn text entries' e := by
  cases hsettled with
  | tally htop =>
    have htop' := @top_perm text entries entries' h
    rw [htop] at htop'
    exact .tally (List.singleton_perm.1 htop').symm
  | mention htied hone =>
    have hone' := @mentioned_perm text entries entries' h
    rw [hone] at hone'
    rw [(top_perm h).length_eq] at htied
    exact .mention htied (List.singleton_perm.1 hone').symm

theorem top_eq_nil_iff_of_perm (h : entries.Perm entries') :
    top text entries = [] ↔ top text entries' = [] := by
  rw [← List.length_eq_zero_iff, ← List.length_eq_zero_iff, (top_perm h).length_eq]

theorem contenders_perm (h : entries.Perm entries') :
    (contenders text entries).Perm (contenders text entries') := by
  unfold contenders
  by_cases hnone : top text entries = []
  · rw [if_pos hnone, if_pos ((top_eq_nil_iff_of_perm h).1 hnone)]
    exact h
  · rw [if_neg hnone, if_neg (mt (top_eq_nil_iff_of_perm h).2 hnone)]
    exact top_perm h

theorem nodup_contenders (h : entries.Nodup) : (contenders text entries).Nodup := by
  unfold contenders
  split
  · exact h
  · exact h.filter _

/-! ### Scores in any order -/

/-- Whether two candidates share the greatest score, and it reaches the threshold. -/
def SharesBest (text : List Char) (candidates : List CategoryEntry) (threshold : Binary64) : Prop :=
  ∃ x ∈ candidates, ∃ y ∈ candidates, x ≠ y ∧ x.IsSimilar text threshold ∧
    (∀ z ∈ candidates, (z.nameScore text).le (x.nameScore text) = true) ∧
    ∀ z ∈ candidates, (z.nameScore text).le (y.nameScore text) = true

instance (text : List Char) (candidates : List CategoryEntry) (threshold : Binary64) :
    Decidable (SharesBest text candidates threshold) :=
  inferInstanceAs (Decidable (∃ x ∈ candidates, ∃ y ∈ candidates, _ ∧ _ ∧ (∀ z ∈ candidates, _) ∧
    ∀ z ∈ candidates, _))

/-- A leader whose score no other candidate has leads in any order. -/
theorem isLeader_of_perm (hperm : candidates.Perm candidates') (hnodup : candidates.Nodup)
    (hlead : IsLeader text candidates e) (hreached : e.IsSimilar text threshold)
    (halone : ¬ SharesBest text candidates threshold) : IsLeader text candidates' e := by
  have hless : ∀ x ∈ candidates, x ≠ e → (x.nameScore text).lt (e.nameScore text) = true := by
    intro x hx hne
    rcases Binary64.le_or_lt (e.isNaN_nameScore text) (x.isNaN_nameScore text) with hle | hlt
    · -- a score as great as the leader's is the greatest, too
      refine absurd ⟨e, hlead.mem, x, hx, hne.symm, hreached, fun z hz => hlead.le hz,
        fun z hz => ?_⟩ halone
      exact Binary64.le_trans (hlead.le hz) hle
    · exact hlt
  obtain ⟨before, after, hsplit⟩ := List.append_of_mem (hperm.mem_iff.1 hlead.mem)
  have hnodup' : (before ++ e :: after).Nodup := hsplit ▸ hperm.nodup_iff.1 hnodup
  have hothers : e ∉ before ++ after := (List.nodup_middle.1 hnodup').notMem
  have hless' : ∀ x ∈ before ++ after, (x.nameScore text).lt (e.nameScore text) = true := by
    intro x hx
    refine hless x (hperm.mem_iff.2 ?_) ?_
    · rw [hsplit]
      exact List.mem_append.2 ((List.mem_append.1 hx).imp_right (List.mem_cons_of_mem _))
    · rintro rfl
      exact hothers hx
  refine ⟨before, after, hsplit, fun x hx => ?_, fun x hx => ?_⟩
  · exact hless' x (List.mem_append_left _ hx)
  · exact Binary64.le_of_lt (hless' x (List.mem_append_right _ hx))

/-- The most similar name does not depend on the order if no two candidates share its score. -/
theorem bestSimilar_of_perm (hperm : candidates.Perm candidates') (hnodup : candidates.Nodup)
    (halone : ¬ SharesBest text candidates threshold) :
    bestSimilar text candidates' threshold = bestSimilar text candidates threshold := by
  by_cases hsimilar : ∃ x ∈ candidates, x.IsSimilar text threshold
  · obtain ⟨x, hx, hxsimilar⟩ := hsimilar
    obtain ⟨e, hlead⟩ := @exists_isLeader text _ (List.ne_nil_of_mem hx)
    have hreached : e.IsSimilar text threshold := Binary64.le_trans hxsimilar (hlead.le hx)
    have hlead' := isLeader_of_perm hperm hnodup hlead hreached halone
    rw [bestSimilar_of_isLeader hlead, bestSimilar_of_isLeader hlead']
  · have hnone : ∀ x ∈ candidates, ¬ x.IsSimilar text threshold :=
      fun x hx hxsimilar => hsimilar ⟨x, hx, hxsimilar⟩
    rw [bestSimilar_eq_none_iff.2 hnone, bestSimilar_eq_none_iff]
    intro x hx
    exact hnone x (hperm.mem_iff.2 hx)

/-! ### Categories in any order -/

/-- The category of a text does not depend on the order of the categories, unless it is left to the
scores and two contenders share the best, or a tie is left open. -/
theorem category_of_perm (hperm : entries.Perm entries') (hnodup : entries.Nodup)
    (hscores : ¬ IsSettled text entries → ¬ SharesBest text (contenders text entries) threshold)
    (hclosed : ¬ IsOpen text entries threshold) :
    (ofText text entries threshold).category = (ofText text entries' threshold).category := by
  by_cases hsettled : IsSettled text entries
  · obtain ⟨e, he⟩ := hsettled
    rw [category_of_isSettledOn he, category_of_isSettledOn (isSettledOn_of_perm hperm he)]
  · have hsettled' : ¬ IsSettled text entries' := by
      rintro ⟨e, he⟩
      exact hsettled ⟨e, isSettledOn_of_perm hperm.symm he⟩
    rw [category_of_not_isSettled hsettled, category_of_not_isSettled hsettled',
      bestSimilar_of_perm (contenders_perm hperm) (nodup_contenders hnodup) (hscores hsettled)]
    cases hbest : bestSimilar text (contenders text entries) threshold with
    | some p => rfl
    | none =>
      -- there is no hit, since otherwise the tie would be open
      have hnone : top text entries = [] := by
        by_contra hsome
        obtain ⟨htied, hmany⟩ := tied_of_not_isSettled hsettled hsome
        rw [contenders, if_neg hsome] at hbest
        exact hclosed ⟨htied, hmany, bestSimilar_eq_none_iff.1 hbest⟩
      rw [firstHitName, firstHitName, find?_eq_none_of_top_eq_nil hnone,
        find?_eq_none_of_top_eq_nil ((top_eq_nil_iff_of_perm hperm).1 hnone)]

end Resolution

open Resolution in
/-- **The order of a dictionary only breaks ties.**  Two dictionaries with the same entries in any
order give a description the same category, unless it is left to the scores and two contenders share
the best score at or above the threshold, or there is a hit and nothing before the first-hit rule
decides. -/
theorem resolve_perm {description : Option String} {d d' : CategoryDictionary}
    {threshold : Binary64} (hperm : d.entries.Perm d'.entries)
    (hscores : ¬ (¬ IsSettled (loweredText description) d.entries ∧
      SharesBest (loweredText description) (contenders (loweredText description) d.entries)
        threshold))
    (hclosed : ¬ IsOpen (loweredText description) d.entries threshold) :
    (resolve description d threshold).category = (resolve description d' threshold).category := by
  have hnodup : d.entries.Nodup := d.distinct.of_map CategoryEntry.name
  rw [resolve_eq, resolve_eq]
  exact category_of_perm hperm hnodup (fun hleft hshares => hscores ⟨hleft, hshares⟩) hclosed

/-- A tie of two categories that are hit is broken by similarity in both orders. -/
theorem resolve_perm_similarAmongTied :
    let d : CategoryDictionary := ⟨[⟨"Drinks", ["latte"]⟩, ⟨"Coffee shop", ["latte"]⟩,
      ⟨"Coffee shops", []⟩], by decide⟩
    let d' : CategoryDictionary := ⟨[⟨"Coffee shops", []⟩, ⟨"Coffee shop", ["latte"]⟩,
      ⟨"Drinks", ["latte"]⟩], by decide⟩
    let text := loweredText (some "Latte, coffee-shop")
    d.entries.Perm d'.entries ∧
      ¬ Resolution.SharesBest text (Resolution.contenders text d.entries) defaultNameThreshold ∧
      ¬ Resolution.IsOpen text d.entries defaultNameThreshold ∧
      (Resolution.top text d.entries).length = 2 ∧
      (resolve (some "Latte, coffee-shop") d defaultNameThreshold).category = "Coffee shop" ∧
      (resolve (some "Latte, coffee-shop") d' defaultNameThreshold).category = "Coffee shop" := by
  intro d d' text
  have hperm : d.entries.Perm d'.entries := by decide +kernel
  have hscores : ¬ Resolution.SharesBest text (Resolution.contenders text d.entries)
      defaultNameThreshold := by
    decide +kernel
  have hclosed : ¬ Resolution.IsOpen text d.entries defaultNameThreshold := by decide +kernel
  have hcategory : (resolve (some "Latte, coffee-shop") d defaultNameThreshold).category =
      "Coffee shop" := by
    decide +kernel
  refine ⟨hperm, hscores, hclosed, by decide +kernel, hcategory, ?_⟩
  rw [← resolve_perm hperm (fun h => hscores h.2) hclosed, hcategory]

end SpendingLedger

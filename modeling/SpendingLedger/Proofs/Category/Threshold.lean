import SpendingLedger.Proofs.Category.Contenders

/-!
# The threshold as a cut

The threshold for similar names cuts the numbers in two.  At every threshold up to the cut a
description has one category, and at every threshold beyond it one category, which may be the same.
The cut is the score of the leader: the leader is found up to it, and beyond it nothing is similar
enough.  Where hits or a mention settle the category, no threshold has a say.

## Main definitions

* `Resolution.isBySimilarity` — a category was found by the similarity of its name.

## Main results

* `Resolution.ofText_of_isBySimilarity` — what similarity decides is decided alike at any lower
  threshold.
* `resolve_cut` — **the threshold acts as a single cut, at the score of the leader.**
-/

namespace SpendingLedger

variable {text : List Char} {entries candidates : List CategoryEntry} {threshold lower : Binary64}

namespace Resolution

/-- Whether a category was found by the similarity of its name. -/
def isBySimilarity : Resolution → Bool
  | .similarAmongTied .. => true
  | .similarName .. => true
  | _ => false

/-- The most similar name at a threshold is the most similar one at any lower threshold. -/
theorem bestSimilar_of_le {p : String × Binary64}
    (h : bestSimilar text candidates threshold = some p) (hle : lower.le threshold = true) :
    bestSimilar text candidates lower = some p := by
  have hne : candidates ≠ [] := by
    rintro rfl
    cases h
  obtain ⟨e, hlead⟩ := @exists_isLeader text _ hne
  rw [bestSimilar_of_isLeader hlead] at h ⊢
  split at h
  · next hreached => rw [if_pos (Binary64.le_trans hle hreached), h]
  · cases h

/-- What similarity decides is decided alike at any lower threshold. -/
theorem ofText_of_isBySimilarity (h : (ofText text entries threshold).isBySimilarity = true)
    (hle : lower.le threshold = true) :
    ofText text entries lower = ofText text entries threshold := by
  generalize hr : ofText text entries threshold = r at h
  rw [ofText_eq_iff] at hr ⊢
  cases hr with
  | tally => cases h
  | mention => cases h
  | similarAmongTied htied hmany hbest =>
    exact .similarAmongTied htied hmany (bestSimilar_of_le hbest hle)
  | similarName hnone hbest => exact .similarName hnone (bestSimilar_of_le hbest hle)
  | firstHit => cases h
  | unresolved => cases h

end Resolution

open Resolution in
/-- **The threshold acts as a single cut.**  For every description and dictionary there is a number
up to which all thresholds give one category, and beyond which all give one category.  If hits or a
mention settle on a category, it is that one on both sides.  Otherwise the cut is the score of the
first contender with the greatest score; up to it that contender is found, and beyond it the first
category with a hit, or none.  What similarity has decided stays so at every lower threshold. -/
theorem resolve_cut (description : Option String) (d : CategoryDictionary) :
    ∃ (low high : String) (cut : Binary64), cut.isNaN = false ∧
      (∀ t, t.isNaN = false →
        (resolve description d t).category = if t.le cut then low else high) ∧
      (∀ e, IsSettledOn (loweredText description) d.entries e → low = e.name ∧ high = e.name) ∧
      (¬ IsSettled (loweredText description) d.entries →
        high = firstHitName (loweredText description) d.entries ∧
        (d.entries = [] → low = high) ∧
        (d.entries ≠ [] → ∃ e,
          IsLeader (loweredText description) (contenders (loweredText description) d.entries) e ∧
            cut = e.nameScore (loweredText description) ∧ low = e.name)) ∧
      ∀ t t', (resolve description d t).isBySimilarity = true → t'.le t = true →
        resolve description d t' = resolve description d t := by
  simp only [resolve_eq]
  generalize loweredText description = text
  have hlower : ∀ t t', (ofText text d.entries t).isBySimilarity = true → t'.le t = true →
      ofText text d.entries t' = ofText text d.entries t :=
    fun t t' h hle => ofText_of_isBySimilarity h hle
  by_cases hsettled : IsSettled text d.entries
  · obtain ⟨e, he⟩ := hsettled
    refine ⟨e.name, e.name, .zero, rfl, fun t _ => ?_, fun x hx => ?_,
      fun hnot => absurd ⟨e, he⟩ hnot, hlower⟩
    · rw [category_of_isSettledOn he, ite_self]
    · -- any category that is settled on is the one that is found
      have hname := category_of_isSettledOn hx .zero
      rw [category_of_isSettledOn he] at hname
      exact ⟨hname, hname⟩
  · have hnone : ∀ e, ¬ IsSettledOn text d.entries e := fun e he => hsettled ⟨e, he⟩
    by_cases hempty : contenders text d.entries = []
    · refine ⟨_, _, .zero, rfl, fun t _ => ?_, fun e he => absurd he (hnone e),
        fun _ => ⟨rfl, fun _ => rfl, fun hne => ?_⟩, hlower⟩
      · rw [category_of_not_isSettled hsettled, hempty, ite_self]
        rfl
      · exact absurd (contenders_eq_nil_iff.1 hempty) hne
    · obtain ⟨e, hlead⟩ := @exists_isLeader text _ hempty
      refine ⟨e.name, _, e.nameScore text, e.isNaN_nameScore text, fun t _ => ?_,
        fun e he => absurd he (hnone e),
        fun _ => ⟨rfl, fun hnil => ?_, fun _ => ⟨e, hlead, rfl, rfl⟩⟩, hlower⟩
      · rw [category_of_not_isSettled hsettled, bestSimilar_of_isLeader hlead]
        split <;> rfl
      · exact absurd (contenders_eq_nil_iff.2 hnil) hempty

end SpendingLedger

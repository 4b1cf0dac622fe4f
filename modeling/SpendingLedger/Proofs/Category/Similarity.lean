import Mathlib.Algebra.Order.Field.Basic
import Mathlib.Data.Multiset.UnionInter
import Mathlib.Data.Rat.Cast.Order
import Mathlib.Tactic.NormNum
import SpendingLedger.Category.Similarity
import SpendingLedger.Proofs.Number.Rounding

/-!
# Similarity as a ratio of multisets

The pairs of neighbours of a text are a multiset, and what two texts share is the intersection of
their multisets.  It has at most half as many members as the two together, and half as many only if
they are equal.  So the similarity is a number from zero to one, and its ends are the texts without
a pair in common and those with the same pairs.

## Main definitions

* `Similarity.pairs` — the pairs of a text without its space, each as often as it occurs.
* `Similarity.dice` — the similarity of two texts as an exact number.

## Main results

* `Similarity.sharedCount_eq_card_inter` — what is shared is the intersection.
* `Similarity.dice_of_two_le`, `Similarity.dice_of_lt_two` — the similarity of texts with pairs, and
  of texts of which one has none.
* `Similarity.score_eq_ofRatio` — the score is the number nearest to the similarity.
* `Similarity.dice_laws` — **the laws of the similarity of two texts.**
-/

namespace SpendingLedger.Similarity

open Multiset (card)

/-! ### What two multisets share -/

section Multisets

variable {α : Type} [DecidableEq α] {s t : Multiset α}

/-- The number of members that two lists share is that of their intersection as multisets. -/
theorem sharedCount_eq_card_inter (xs ys : List α) :
    sharedCount xs ys = card ((xs : Multiset α) ∩ ys) := by
  induction xs generalizing ys with
  | nil => simp [sharedCount]
  | cons x xs ih =>
    rw [sharedCount, ← Multiset.cons_coe]
    by_cases h : x ∈ ys
    · rw [if_pos h, ih, Multiset.cons_inter_of_pos _ (Multiset.mem_coe.2 h), Multiset.card_cons,
        Multiset.coe_erase]
    · rw [if_neg h, ih, Multiset.cons_inter_of_neg _ (mt Multiset.mem_coe.1 h)]

/-- An intersection has at most half as many members as the two multisets together. -/
theorem two_mul_card_inter_le (s t : Multiset α) : 2 * card (s ∩ t) ≤ card s + card t := by
  have hs : card (s ∩ t) ≤ card s := Multiset.card_le_card Multiset.inter_le_left
  have ht : card (s ∩ t) ≤ card t := Multiset.card_le_card Multiset.inter_le_right
  omega

/-- It has half as many only if the two are equal. -/
theorem two_mul_card_inter_eq_iff : 2 * card (s ∩ t) = card s + card t ↔ s = t := by
  constructor
  · intro h
    have hs : card (s ∩ t) ≤ card s := Multiset.card_le_card Multiset.inter_le_left
    have ht : card (s ∩ t) ≤ card t := Multiset.card_le_card Multiset.inter_le_right
    calc s = s ∩ t := (Multiset.eq_of_le_of_card_le Multiset.inter_le_left (by omega)).symm
      _ = t := Multiset.eq_of_le_of_card_le Multiset.inter_le_right (by omega)
  · rintro rfl
    rw [show s ∩ s = s from inf_idem s, two_mul]

theorem card_inter_eq_zero_iff : card (s ∩ t) = 0 ↔ ∀ x ∈ s, x ∉ t := by
  rw [Multiset.card_eq_zero, Multiset.inter_eq_zero_iff_disjoint, Multiset.disjoint_left]

end Multisets

/-! ### The exact similarity -/

variable {first second : List Char}

/-- The pairs of neighbours of a text without its space, each as often as it occurs. -/
def pairs (cs : List Char) : Multiset (Char × Char) := bigrams (squeeze cs)

/-- The similarity of two texts as an exact number. -/
def dice (first second : List Char) : ℚ := (ratio first second).1 / (ratio first second).2

theorem card_pairs (cs : List Char) : card (pairs cs) = (squeeze cs).length - 1 := by
  rw [pairs, Multiset.coe_card, length_bigrams]

/-- The similarity of two texts that both have pairs, also if they are alike. -/
theorem dice_of_two_le (hfirst : 2 ≤ (squeeze first).length)
    (hsecond : 2 ≤ (squeeze second).length) :
    dice first second =
      2 * card (pairs first ∩ pairs second) / (card (pairs first) + card (pairs second)) := by
  unfold dice ratio ratioSqueezed
  split
  · next heq =>
    -- texts that are alike share all of their pairs, so the quotient is one
    have hpairs : pairs first = pairs second := by rw [pairs, pairs, heq]
    have hpos : 0 < card (pairs first) := by rw [card_pairs]; omega
    have hshared : (2 * card (pairs first ∩ pairs second) : ℚ) =
        card (pairs first) + card (pairs second) := by
      exact_mod_cast two_mul_card_inter_eq_iff.2 hpairs
    have hne : (card (pairs first) + card (pairs second) : ℚ) ≠ 0 := by positivity
    rw [hshared, div_self hne]
    norm_num
  · rw [if_neg (by omega), sharedCount_eq_card_inter, card_pairs, card_pairs]
    push_cast
    rfl

example : ratio "night".toList "nacht".toList = (2, 8) := by decide

/-- The similarity of two texts of which one has no pairs. -/
theorem dice_of_lt_two (h : (squeeze first).length < 2 ∨ (squeeze second).length < 2) :
    dice first second = if squeeze first = squeeze second then 1 else 0 := by
  unfold dice ratio ratioSqueezed
  rw [if_pos h]
  split <;> norm_num

theorem dice_comm (first second : List Char) : dice second first = dice first second := by
  by_cases h : (squeeze first).length < 2 ∨ (squeeze second).length < 2
  · rw [dice_of_lt_two h, dice_of_lt_two h.symm]
    simp only [eq_comm]
  · rw [not_or, not_lt, not_lt] at h
    rw [dice_of_two_le h.1 h.2, dice_of_two_le h.2 h.1, Multiset.inter_comm, add_comm]

/-! ### The score -/

theorem snd_ratio_pos (first second : List Char) : 0 < (ratio first second).2 := by
  unfold ratio ratioSqueezed
  split
  · exact Nat.one_pos
  · split
    · exact Nat.one_pos
    · next h => dsimp only; omega

/-- The score of two texts is the number nearest to their similarity. -/
theorem score_eq_ofRatio {num den : ℕ} (hden : 0 < den) (h : dice first second = num / den) :
    score first second = .ofRatio false num den := by
  have hratio := snd_ratio_pos first second
  have hcross : ((ratio first second).1 : ℚ) * den = num * (ratio first second).2 :=
    (div_eq_div_iff (by positivity) (by positivity)).1 h
  exact Binary64.ofRatio_congr hratio hden (by exact_mod_cast hcross)

theorem score_comm (first second : List Char) : score second first = score first second :=
  (score_eq_ofRatio (snd_ratio_pos second first) (dice_comm second first)).symm

/-! ### The laws -/

/-- The similarity of two texts lies between zero and one. -/
theorem dice_mem_Icc (first second : List Char) :
    0 ≤ dice first second ∧ dice first second ≤ 1 := by
  by_cases h : (squeeze first).length < 2 ∨ (squeeze second).length < 2
  · rw [dice_of_lt_two h]
    split <;> norm_num
  · rw [not_or, not_lt, not_lt] at h
    rw [dice_of_two_le h.1 h.2]
    refine ⟨by positivity, div_le_one_of_le₀ ?_ (by positivity)⟩
    exact_mod_cast two_mul_card_inter_le (pairs first) (pairs second)

/-- The ends of the similarity of two texts that both have pairs. -/
theorem dice_eq_iff_of_two_le (hfirst : 2 ≤ (squeeze first).length)
    (hsecond : 2 ≤ (squeeze second).length) :
    (dice first second = 1 ↔ pairs first = pairs second) ∧
      (dice first second = 0 ↔ ∀ p ∈ pairs first, p ∉ pairs second) := by
  have hpos : (0 : ℚ) < card (pairs first) + card (pairs second) := by
    have hcard : 0 < card (pairs first) := by rw [card_pairs]; omega
    positivity
  rw [dice_of_two_le hfirst hsecond]
  constructor
  · rw [div_eq_one_iff_eq hpos.ne', ← two_mul_card_inter_eq_iff]
    exact_mod_cast Iff.rfl
  · rw [div_eq_zero_iff, or_iff_left hpos.ne', ← card_inter_eq_zero_iff]
    simp

/-- **The laws of the similarity of two texts.**  Space is left out of account, the order of the
texts makes no difference, and the score is the number nearest to the similarity, which lies between
zero and one.  For texts with pairs the similarity is twice the number of shared pairs over the
number of all; it is one exactly if the pairs are the same and zero exactly if none is shared.  If
one of the texts has no pair, it is one or zero as the texts are alike or not. -/
theorem dice_laws (first second : List Char) :
    (∀ first' second', squeeze first' = squeeze first → squeeze second' = squeeze second →
      dice first' second' = dice first second ∧ score first' second' = score first second) ∧
    (dice second first = dice first second ∧ score second first = score first second) ∧
    (∀ num den : ℕ, 0 < den → dice first second = num / den →
      score first second = .ofRatio false num den) ∧
    (0 ≤ dice first second ∧ dice first second ≤ 1) ∧
    (2 ≤ (squeeze first).length → 2 ≤ (squeeze second).length →
      dice first second =
        2 * card (pairs first ∩ pairs second) / (card (pairs first) + card (pairs second)) ∧
      (dice first second = 1 ↔ pairs first = pairs second) ∧
      (dice first second = 0 ↔ ∀ p ∈ pairs first, p ∉ pairs second)) ∧
    ((squeeze first).length < 2 ∨ (squeeze second).length < 2 →
      dice first second = if squeeze first = squeeze second then 1 else 0) := by
  refine ⟨?space, ⟨dice_comm first second, score_comm first second⟩,
    fun num den => score_eq_ofRatio, dice_mem_Icc first second, ?pairs, dice_of_lt_two⟩
  case space =>
    intro first' second' hfirst hsecond
    have hratio : ratio first' second' = ratio first second := by
      rw [ratio, ratio, hfirst, hsecond]
    constructor
    · rw [dice, dice, hratio]
    · rw [score, score, hratio]
  case pairs =>
    exact fun hfirst hsecond =>
      ⟨dice_of_two_le hfirst hsecond, dice_eq_iff_of_two_le hfirst hsecond⟩

/-- Two texts that are not alike but have the same pairs, two that share one pair twice, and two
without pairs. -/
theorem dice_laws_repeated_pairs :
    dice "ab aca".toList "aca ba".toList = 1 ∧
      dice "aaaa".toList "a aa".toList = 4 / 5 ∧
      score "aaaa".toList "a aa".toList = .ofRatio false 4 5 ∧
      dice "é".toList " é".toList = 1 := by
  obtain ⟨-, -, -, -, halike, -⟩ := dice_laws "ab aca".toList "aca ba".toList
  obtain ⟨-, -, hscore, -, hshared, -⟩ := dice_laws "aaaa".toList "a aa".toList
  obtain ⟨-, -, -, -, -, hshort⟩ := dice_laws "é".toList " é".toList
  have hcards : card (pairs "aaaa".toList ∩ pairs "a aa".toList) = 2 ∧
      card (pairs "aaaa".toList) = 3 ∧ card (pairs "a aa".toList) = 2 := by decide +kernel
  have hratio : dice "aaaa".toList "a aa".toList = 4 / 5 := by
    rw [(hshared (by decide) (by decide)).1, hcards.1, hcards.2.1, hcards.2.2]
    norm_num
  refine ⟨(halike (by decide) (by decide)).2.1.2 (by decide +kernel), hratio, ?_, ?_⟩
  · exact hscore 4 5 (by decide) (by exact_mod_cast hratio)
  · rw [hshort (by decide), if_pos (by decide)]

end SpendingLedger.Similarity

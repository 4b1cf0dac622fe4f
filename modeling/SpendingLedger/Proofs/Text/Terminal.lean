import SpendingLedger.Proofs.Text.Words
import SpendingLedger.Text.Terminal

/-!
# Texts without control sequences

A control sequence holds no tab, so in a text that is put together with tabs each part loses its own
sequences.  What is left of a text are some of its characters.

## Main results

* `withoutSequences_append_tab`, `withoutSequences_intercalate` — **the parts between tabs lose
  their sequences apart from each other.**
* `mem_of_mem_withoutSequences` — what is left stood in the text.
-/

namespace SpendingLedger.Text

variable {cs rest : List Char}

/-- A control sequence begins with the escape character and a bracket. -/
theorem behindSequence?_eq_none (h : ∀ body, cs ≠ '\x1b' :: '[' :: body) :
    behindSequence? cs = none := by
  unfold behindSequence?
  split
  · exact absurd rfl (h _)
  · rfl

/-- What follows the control sequence at the head of a text is an end of the text. -/
theorem suffix_of_behindSequence? (h : behindSequence? cs = some rest) : rest <:+ cs := by
  unfold behindSequence? at h
  split at h
  · next body =>
    split at h
    · next c tail hdrop =>
      split at h
      · cases h
        have hbody : c :: rest <:+ body := hdrop ▸ List.dropWhile_suffix _
        have hcs : body <:+ '\x1b' :: '[' :: body := List.suffix_append ['\x1b', '['] body
        exact ((List.suffix_cons c rest).trans hbody).trans hcs
      · cases h
    · cases h
  · cases h

/-- A tab ends a control sequence that is not complete. -/
theorem behindSequence?_append_tab (cs rest : List Char) :
    behindSequence? (cs ++ '\t' :: rest) = (behindSequence? cs).map (· ++ '\t' :: rest) := by
  by_cases h : ∃ body, cs = '\x1b' :: '[' :: body
  · obtain ⟨body, rfl⟩ := h
    simp only [List.cons_append, behindSequence?, List.dropWhile_append]
    cases hdrop : body.dropWhile isSequenceParameter with
    | nil => simp [isSequenceParameter]
    | cons c tail =>
      by_cases hc : c.isAlpha <;> simp [hc]
  · have hnone := behindSequence?_eq_none fun body hcs => h ⟨body, hcs⟩
    rw [hnone, Option.map_none]
    refine behindSequence?_eq_none fun body hbody => h ?_
    -- the two characters at the head of a sequence are no tabs, so they stand before the tab
    cases cs with
    | nil => simp at hbody
    | cons c cs =>
      cases cs with
      | nil => simp at hbody
      | cons d cs =>
        simp only [List.cons_append, List.cons.injEq] at hbody
        exact ⟨cs, by rw [hbody.1, hbody.2.1]⟩

theorem withoutSequences_nil : withoutSequences [] = [] := withoutSequences_of_not_mem (by simp)

theorem withoutSequences_of_some (h : behindSequence? cs = some rest) :
    withoutSequences cs = withoutSequences rest := by
  rw [withoutSequences]
  split <;> simp_all

theorem withoutSequences_cons {c : Char} (h : behindSequence? (c :: cs) = none) :
    withoutSequences (c :: cs) = c :: withoutSequences cs := by
  rw [withoutSequences]
  split <;> simp_all

/-- The parts before and behind a tab lose their control sequences apart from each other. -/
theorem withoutSequences_append_tab (cs rest : List Char) :
    withoutSequences (cs ++ '\t' :: rest) =
      withoutSequences cs ++ '\t' :: withoutSequences rest := by
  have hbehind := fun cs => behindSequence?_append_tab cs rest
  induction cs using withoutSequences.induct with
  | case1 cs behind h ih =>
    have hjoined := hbehind cs
    rw [h, Option.map_some] at hjoined
    rw [withoutSequences_of_some hjoined, withoutSequences_of_some h, ih]
  | case2 h =>
    have hjoined := hbehind []
    rw [h, Option.map_none] at hjoined
    rw [withoutSequences_nil]
    exact withoutSequences_cons hjoined
  | case3 c cs h ih =>
    have hjoined := hbehind (c :: cs)
    rw [h, Option.map_none] at hjoined
    rw [withoutSequences_cons h, List.cons_append, List.cons_append, ← ih]
    exact withoutSequences_cons hjoined

/-- The parts between tabs lose their control sequences apart from each other. -/
theorem withoutSequences_intercalate (parts : List (List Char)) :
    withoutSequences (List.intercalate ['\t'] parts) =
      List.intercalate ['\t'] (parts.map withoutSequences) := by
  induction parts with
  | nil => exact withoutSequences_nil
  | cons part rest ih =>
    cases rest with
    | nil => rw [List.map_singleton, List.intercalate_singleton, List.intercalate_singleton]
    | cons part' rest =>
      rw [List.map_cons] at ih
      rw [List.map_cons, List.map_cons, List.intercalate_cons_cons, List.intercalate_cons_cons,
        List.append_assoc, List.singleton_append, withoutSequences_append_tab, ih,
        List.append_assoc, List.singleton_append]

/-- What is left of a text stood in it. -/
theorem mem_of_mem_withoutSequences {c : Char} (h : c ∈ withoutSequences cs) : c ∈ cs := by
  induction cs using withoutSequences.induct with
  | case1 cs behind hbehind ih =>
    rw [withoutSequences_of_some hbehind] at h
    exact (suffix_of_behindSequence? hbehind).subset (ih h)
  | case2 hnone =>
    rw [withoutSequences_nil] at h
    exact h
  | case3 d cs hnone ih =>
    rw [withoutSequences_cons hnone] at h
    exact (List.mem_cons.1 h).elim (fun hd => hd ▸ List.mem_cons_self)
      fun hcs => List.mem_cons_of_mem d (ih hcs)

end SpendingLedger.Text

import SpendingLedger.Proofs.Text.Case
import SpendingLedger.Text.Search

/-!
# Lower case in its place

A text is lowered character by character but for the capital sigma, whose form is the final one
where it ends a word.  So what a part of a text is lowered to hangs on what stands around it: it is
lowered as if it stood alone exactly if each capital sigma in it ends a word in both cases or in
neither.  That is so for every part without a capital sigma, and wherever no cased character stands
beside the part.

## Main definitions

* `lowerWithin` — the lower-case form of a part of a text, in its place.
* `KeepsSigmas` — whether the capital sigmas of a part have the form that they have when it stands
  alone.

## Main results

* `lowerAfter_append` — a text is lowered part by part, each in its place.
* `lowerWithin_eq_lowerChars_iff` — **a part is lowered as if it stood alone exactly if its capital
  sigmas keep their form.**
* `isPrefix_lowerChars_iff`, `isSuffix_lowerChars_iff` — **so a text begins or ends with a part in
  lower case too exactly then.**
* `keepsSigmas_of_nextIsCased_eq_false` — where they keep it.
-/

namespace SpendingLedger.Text

/-! ### Parts in their place -/

/-- The lower-case form of a text between the text `before`, given backwards, and the text
`after`. -/
def lowerWithin (before after : List Char) : List Char → List Char
  | [] => []
  | c :: cs =>
    (if c = 'Σ' then [if endsWord before (cs ++ after) then 'ς' else 'σ'] else lowerChar c)
      ++ lowerWithin (c :: before) after cs

variable {before after before' after' cs left right : List Char}

/-- A text is lowered part by part, each in its place. -/
theorem lowerAfter_append (before cs after : List Char) :
    lowerAfter before (cs ++ after) =
      lowerWithin before after cs ++ lowerAfter (cs.reverse ++ before) after := by
  induction cs generalizing before with
  | nil => rfl
  | cons c cs ih =>
    rw [List.cons_append, lowerAfter, lowerWithin, ih, List.reverse_cons, List.append_assoc,
      List.append_assoc, List.singleton_append]

/-- With nothing behind it a part is lowered as the rest of a text. -/
theorem lowerWithin_nil_right (before cs : List Char) :
    lowerWithin before [] cs = lowerAfter before cs := by
  have hwhole := lowerAfter_append before cs []
  rw [List.append_nil, lowerAfter, List.append_nil] at hwhole
  exact hwhole.symm

theorem lowerChars_append (left right : List Char) :
    lowerChars (left ++ right) = lowerWithin [] right left ++ lowerAfter left.reverse right := by
  rw [lowerChars, lowerAfter_append, List.append_nil]

/-- The length of a part in lower case does not hang on its place. -/
theorem length_lowerWithin (before after before' after' cs : List Char) :
    (lowerWithin before after cs).length = (lowerWithin before' after' cs).length := by
  induction cs generalizing before before' with
  | nil => rfl
  | cons c cs ih =>
    rw [lowerWithin, lowerWithin, List.length_append, List.length_append,
      ih (c :: before) (c :: before')]
    split <;> rfl

theorem length_lowerWithin_eq (before after cs : List Char) :
    (lowerWithin before after cs).length = (lowerChars cs).length := by
  rw [length_lowerWithin before after [] [], lowerWithin_nil_right, lowerChars]

/-! ### Capital sigmas -/

/-- The capital sigmas of a text are that of its head, if it is one, and those behind it. -/
theorem forall_sigma_cons {c : Char} {P : List Char → List Char → Prop} :
    (∀ a b, c :: cs = a ++ 'Σ' :: b → P a b) ↔
      (c = 'Σ' → P [] cs) ∧ ∀ a b, cs = a ++ 'Σ' :: b → P (c :: a) b := by
  constructor
  · intro h
    refine ⟨?_, fun a b hcs => h (c :: a) b (by rw [hcs]; rfl)⟩
    rintro rfl
    exact h [] cs rfl
  · rintro ⟨hhead, htail⟩ a b hcs
    cases a with
    | nil =>
      obtain ⟨rfl, rfl⟩ := List.cons.inj hcs
      exact hhead rfl
    | cons d a =>
      obtain ⟨rfl, rfl⟩ := List.cons.inj hcs
      exact htail a b rfl

/-- A part is lowered alike in two places exactly if each capital sigma ends a word in both or in
neither. -/
theorem lowerWithin_eq_iff :
    lowerWithin before after cs = lowerWithin before' after' cs ↔
      ∀ a b, cs = a ++ 'Σ' :: b →
        endsWord (a.reverse ++ before) (b ++ after) =
          endsWord (a.reverse ++ before') (b ++ after') := by
  induction cs generalizing before before' with
  | nil => simp [lowerWithin]
  | cons c cs ih =>
    have hrest := @ih (c :: before) (c :: before')
    rw [forall_sigma_cons, lowerWithin, lowerWithin]
    simp only [List.reverse_cons, List.reverse_nil, List.nil_append, List.append_assoc,
      List.singleton_append]
    by_cases hc : c = 'Σ'
    · rw [if_pos hc, if_pos hc, List.singleton_append, List.singleton_append, List.cons.injEq,
        hrest]
      refine and_congr_left fun _ => ?_
      cases endsWord before (cs ++ after) <;> cases endsWord before' (cs ++ after') <;>
        simp [hc]
    · rw [if_neg hc, if_neg hc, List.append_cancel_left_eq, hrest]
      exact ⟨fun h => ⟨fun hsigma => absurd hsigma hc, h⟩, fun h => h.2⟩

/-- Whether each capital sigma of `cs` ends a word between `left` and `right` exactly if it ends one
where `cs` stands alone. -/
def KeepsSigmas (left cs right : List Char) : Prop :=
  ∀ a b, cs = a ++ 'Σ' :: b →
    endsWord (a.reverse ++ left.reverse) (b ++ right) = endsWord a.reverse b

/-- **A part is lowered as if it stood alone exactly if its capital sigmas keep their form.** -/
theorem lowerWithin_eq_lowerChars_iff :
    lowerWithin left.reverse right cs = lowerChars cs ↔ KeepsSigmas left cs right := by
  rw [lowerChars, ← lowerWithin_nil_right, lowerWithin_eq_iff, KeepsSigmas]
  simp only [List.append_nil]

instance (left cs right : List Char) : Decidable (KeepsSigmas left cs right) :=
  decidable_of_iff _ lowerWithin_eq_lowerChars_iff

/-! ### Parts that are found -/

/-- A part whose capital sigmas keep their form occurs in lower case where it stands. -/
theorem KeepsSigmas.occursIn (h : KeepsSigmas left cs right) :
    occursIn (lowerChars cs) (lowerChars (left ++ cs ++ right)) = true := by
  refine occursIn_iff.2 ⟨lowerWithin [] (cs ++ right) left,
    lowerAfter (cs.reverse ++ left.reverse) right, ?_⟩
  rw [List.append_assoc, lowerChars_append, lowerAfter_append,
    lowerWithin_eq_lowerChars_iff.2 h, List.append_assoc]

/-- **A text begins with a part in lower case too exactly if the capital sigmas keep their
form.** -/
theorem isPrefix_lowerChars_iff :
    lowerChars cs <+: lowerChars (cs ++ right) ↔ KeepsSigmas [] cs right := by
  rw [← lowerWithin_eq_lowerChars_iff, lowerChars_append, List.reverse_nil]
  constructor
  · intro h
    have hlength := length_lowerWithin_eq [] right cs
    have hprefix := List.prefix_append (lowerWithin [] right cs) (lowerAfter cs.reverse right)
    exact (List.prefix_of_prefix_length_le hprefix h (Nat.le_of_eq hlength)).eq_of_length hlength
  · intro h
    rw [h]
    exact List.prefix_append _ _

/-- **A text ends with a part in lower case too exactly if the capital sigmas keep their form.** -/
theorem isSuffix_lowerChars_iff :
    lowerChars cs <:+ lowerChars (left ++ cs) ↔ KeepsSigmas left cs [] := by
  rw [← lowerWithin_eq_lowerChars_iff, lowerChars_append, lowerWithin_nil_right]
  constructor
  · intro h
    have hlength : (lowerAfter left.reverse cs).length = (lowerChars cs).length := by
      rw [← lowerWithin_nil_right, length_lowerWithin_eq]
    have hsuffix := List.suffix_append (lowerWithin [] cs left) (lowerAfter left.reverse cs)
    exact (List.suffix_of_suffix_length_le hsuffix h (Nat.le_of_eq hlength)).eq_of_length hlength
  · intro h
    rw [h]
    exact List.suffix_append _ _

/-! ### Where capital sigmas keep their form -/

/-- A text behind which no cased character comes next is looked through as if it ended there. -/
theorem nextIsCased_append_of_eq_false (hafter : nextIsCased after = false) (cs : List Char) :
    nextIsCased (cs ++ after) = nextIsCased cs := by
  induction cs with
  | nil => exact hafter
  | cons c cs ih => rw [List.cons_append, nextIsCased_cons, nextIsCased_cons, ih]

/-- Where no cased character stands beside it, a part keeps its capital sigmas. -/
theorem keepsSigmas_of_nextIsCased_eq_false (hleft : nextIsCased left.reverse = false)
    (hright : nextIsCased right = false) : KeepsSigmas left cs right := by
  intro a b _
  unfold endsWord
  rw [nextIsCased_append_of_eq_false hleft, nextIsCased_append_of_eq_false hright]

example : KeepsSigmas "ΟΔΟΣ ".toList "ΟΔΟΣ".toList "'".toList := by decide +kernel

end SpendingLedger.Text

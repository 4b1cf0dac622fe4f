import SpendingLedger.Text.Word

/-!
# Finding a text in another

## Main definitions

* `occursIn` — whether a text occurs anywhere in another.
* `isBoundary` — whether a word begins or ends at a place.
* `occursAsWord` — whether a text occurs with a word boundary at each of its ends.
-/

namespace SpendingLedger.Text

/-- Whether `part` occurs somewhere in `whole`. -/
def occursIn (part : List Char) : List Char → Bool
  | [] => part.isEmpty
  | c :: cs => part.isPrefixOf (c :: cs) || occursIn part cs

/-- Whether the first character of `cs` can stand inside a word. -/
def headInWord : List Char → Bool
  | [] => false
  | c :: _ => isWordChar c

/-- Whether a word begins or ends between the text `before`, given backwards, and the text
`after`. -/
def isBoundary (before after : List Char) : Bool :=
  headInWord before != headInWord after

/-- Whether `part` begins at the head of `after`, with a word boundary at each end. -/
def isWordAt (part before after : List Char) : Bool :=
  part.isPrefixOf after && isBoundary before after
    && isBoundary (part.reverse ++ before) (after.drop part.length)

/-- Whether `part` stands, between two word boundaries, somewhere in the text `after` that follows
the text `before`, given backwards. -/
def occursAsWordAfter (part before : List Char) : List Char → Bool
  | [] => isWordAt part before []
  | c :: cs => isWordAt part before (c :: cs) || occursAsWordAfter part (c :: before) cs

/-- Whether `part` stands between two word boundaries somewhere in `whole`. -/
def occursAsWord (part whole : List Char) : Bool := occursAsWordAfter part [] whole

@[simp] theorem occursIn_nil_left (whole : List Char) : occursIn [] whole = true := by
  cases whole <;> simp [occursIn]

@[simp] theorem isBoundary_nil : isBoundary [] [] = false := rfl

/-- A text occurs in another exactly when the other is made of it and a text on each side. -/
theorem occursIn_iff {part whole : List Char} :
    occursIn part whole = true ↔ ∃ left right, whole = left ++ part ++ right := by
  induction whole with
  | nil => simp [occursIn, List.isEmpty_iff]
  | cons c cs ih =>
    rw [occursIn, Bool.or_eq_true_iff, List.isPrefixOf_iff_prefix, ih]
    constructor
    · rintro (⟨right, h⟩ | ⟨left, right, h⟩)
      · exact ⟨[], right, by simpa using h.symm⟩
      · exact ⟨c :: left, right, by simp [h]⟩
    · rintro ⟨left, right, h⟩
      cases left with
      | nil => exact .inl ⟨right, by simpa using h.symm⟩
      | cons d left =>
        simp only [List.cons_append, List.cons.injEq] at h
        exact .inr ⟨left, right, h.2⟩

example : occursIn "foods".toList "whole foods market".toList := by decide

end SpendingLedger.Text

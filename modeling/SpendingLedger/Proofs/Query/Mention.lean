import SpendingLedger.Proofs.Text.Case
import SpendingLedger.Query.Term
import SpendingLedger.Query.Token

/-!
# Words that a description mentions

A bare word is sought in the description, both in lower case, at the places with a word boundary at
each end.  At an end where the bare word has a character that stands in no word, a boundary is there
only if the neighbour stands in one.  The neighbours of a word of the description are spaces, if it
has any.  So it is found for certain if it begins and ends like a word, and otherwise only where it
is glued to other words.

## Main definitions

* `Text.IsBounded` — whether a word boundary is at each end of a part of a text.

## Main results

* `Text.occursAsWord_iff` — what is found are the bounded parts.
* `evalTerm_of_mem_words` — **which words of a description a bare word finds.**
-/

namespace SpendingLedger

namespace Text

/-! ### Boundaries -/

/-- Whether a word boundary lies between `left` and `part`, and another one between `part` and
`right`. -/
structure IsBounded (left part right : List Char) : Prop where
  left_ne : headInWord left.reverse ≠ headInWord part
  right_ne : headInWord right ≠ headInWord part.reverse

variable {part before after whole left right : List Char}

theorem headInWord_append (hne : part ≠ []) (right : List Char) :
    headInWord (part ++ right) = headInWord part := by
  cases part with
  | nil => exact absurd rfl hne
  | cons c part => rfl

theorem isBoundary_iff : isBoundary before after = true ↔ headInWord before ≠ headInWord after := by
  unfold isBoundary
  exact bne_iff_ne

theorem isWordAt_iff (hne : part ≠ []) :
    isWordAt part before after = true ↔
      ∃ right, after = part ++ right ∧ headInWord before ≠ headInWord part ∧
        headInWord right ≠ headInWord part.reverse := by
  have hback : part.reverse ≠ [] := mt List.reverse_eq_nil_iff.1 hne
  unfold isWordAt
  rw [Bool.and_eq_true, Bool.and_eq_true, List.isPrefixOf_iff_prefix, isBoundary_iff,
    isBoundary_iff, headInWord_append hback]
  constructor
  · rintro ⟨⟨⟨right, rfl⟩, hbegin⟩, hend⟩
    rw [headInWord_append hne] at hbegin
    rw [List.drop_left] at hend
    exact ⟨right, rfl, hbegin, hend.symm⟩
  · rintro ⟨right, rfl, hbegin, hend⟩
    rw [headInWord_append hne, List.drop_left]
    exact ⟨⟨⟨right, rfl⟩, hbegin⟩, hend.symm⟩

/-- What is found behind a text is a bounded part. -/
theorem occursAsWordAfter_iff (hne : part ≠ []) :
    occursAsWordAfter part before after = true ↔
      ∃ left right, after = left ++ part ++ right ∧
        IsBounded (before.reverse ++ left) part right := by
  induction after generalizing before with
  | nil =>
    rw [occursAsWordAfter, isWordAt_iff hne]
    refine iff_of_false ?_ ?_
    · rintro ⟨right, hnil, -⟩
      exact hne (List.append_eq_nil_iff.1 hnil.symm).1
    · rintro ⟨left, right, hnil, -⟩
      exact hne (List.append_eq_nil_iff.1 (List.append_eq_nil_iff.1 hnil.symm).1).2
  | cons c cs ih =>
    rw [occursAsWordAfter, Bool.or_eq_true, isWordAt_iff hne, ih]
    constructor
    · rintro (⟨right, hcs, hbegin, hend⟩ | ⟨left, right, hcs, hbounded⟩)
      · exact ⟨[], right, hcs, by simpa using hbegin, hend⟩
      · refine ⟨c :: left, right, by rw [hcs]; rfl, ?_⟩
        rwa [List.reverse_cons, List.append_assoc] at hbounded
    · rintro ⟨left, right, hcs, hbounded⟩
      cases left with
      | nil => exact Or.inl ⟨right, hcs, by simpa using hbounded.left_ne, hbounded.right_ne⟩
      | cons d left =>
        obtain ⟨rfl, rfl⟩ := List.cons.inj hcs
        refine Or.inr ⟨left, right, rfl, ?_⟩
        rwa [List.reverse_cons, List.append_assoc]

/-- What is found is a bounded part. -/
theorem occursAsWord_iff (hne : part ≠ []) :
    occursAsWord part whole = true ↔
      ∃ left right, whole = left ++ part ++ right ∧ IsBounded left part right :=
  occursAsWordAfter_iff hne

/-- No space stands inside a word. -/
theorem isWordChar_of_isSpace {c : Char} (hc : isSpace c = true) : isWordChar c = false := by
  have hletter : isLetter c = false := inRanges_of_isSpace (by decide +kernel) hc
  have hnumeral : isNumeral c = false := inRanges_of_isSpace (by decide +kernel) hc
  have hunderscore : c ≠ '_' := by
    rintro rfl
    exact absurd hc (by decide)
  simp [isWordChar, hletter, hnumeral, hunderscore]

theorem headInWord_of_isSpace (h : ∀ c, right.head? = some c → isSpace c = true) :
    headInWord right = false := by
  cases right with
  | nil => rfl
  | cons c right => exact isWordChar_of_isSpace (h c rfl)

/-- A word of a text stands in the text in lower case, with no word at either side. -/
theorem exists_of_mem_words {term text : List Char} (h : term ∈ words text) :
    lowerChars term ≠ [] ∧ ∃ left right, lowerChars text = left ++ lowerChars term ++ right ∧
      headInWord left.reverse = false ∧ headInWord right = false := by
  have hlower : lowerChars term ∈ words (lowerChars text) := by
    rw [words_lowerChars]
    exact List.mem_map_of_mem h
  obtain ⟨left, right, htext, hleft, hright⟩ := exists_of_mem_pieces (List.mem_filter.1 hlower).1
  refine ⟨(trimmed_of_mem_words hlower).1, left, right, htext, ?_, headInWord_of_isSpace hright⟩
  refine headInWord_of_isSpace fun c hc => hleft c ?_
  rwa [List.head?_reverse] at hc

end Text

namespace Query

open Text (lowerChars headInWord IsBounded)

variable {term : String} {t : Transaction}

theorem evalTerm_of_bare (hbare : Comparison.ofText? term = none) (today : Date) :
    evalTerm today term t = .ok (mentions term t.descriptionText) := by
  unfold evalTerm
  rw [hbare]

/-- **Which words of a description a bare word finds.**  A term that is no comparison and that is a
word of the description is found there if, in lower case, it begins and ends with characters that
stand in words.  Any other one is found exactly where it is bounded: at each end where it does not
begin or end like a word, it must meet one.  So it is not found if it stands nowhere else. -/
theorem evalTerm_of_mem_words (hbare : Comparison.ofText? term = none)
    (hmem : term.toList ∈ Text.words t.descriptionText.toList) (today : Date) :
    let part := lowerChars term.toList
    let whole := lowerChars t.descriptionText.toList
    (headInWord part = true → headInWord part.reverse = true →
        evalTerm today term t = .ok true) ∧
      (evalTerm today term t = .ok true ↔
        ∃ left right, whole = left ++ part ++ right ∧ IsBounded left part right) ∧
      ((headInWord part = false ∨ headInWord part.reverse = false) →
        (∀ left right left' right', whole = left ++ part ++ right →
          whole = left' ++ part ++ right' → left = left') →
        evalTerm today term t = .ok false) := by
  intro part whole
  obtain ⟨hne, left, right, hwhole, hleft, hright⟩ := Text.exists_of_mem_words hmem
  have hfound : evalTerm today term t = .ok true ↔
      ∃ left right, whole = left ++ part ++ right ∧ IsBounded left part right := by
    rw [evalTerm_of_bare hbare, ← Text.occursAsWord_iff hne]
    exact ⟨Except.ok.inj, congrArg Except.ok⟩
  refine ⟨fun hbegin hend => hfound.2 ⟨left, right, hwhole, ?_, ?_⟩, hfound, fun hother honce => ?_⟩
  · rw [hleft, hbegin]
    decide
  · rw [hright, hend]
    decide
  · rw [evalTerm_of_bare hbare]
    refine congrArg Except.ok (Bool.eq_false_iff.2 fun hmentions => ?_)
    obtain ⟨left', right', hwhole', hbounded⟩ := (Text.occursAsWord_iff hne).1 hmentions
    -- the only place is the one between spaces
    obtain rfl := honce left right left' right' hwhole hwhole'
    obtain rfl : right = right' := List.append_cancel_left (hwhole.symm.trans hwhole')
    rcases hother with hbegin | hend
    · exact hbounded.left_ne (hleft.trans hbegin.symm)
    · exact hbounded.right_ne (hright.trans hend.symm)

/-- A transaction with a description. -/
def described (description : String) : Transaction :=
  { id := "1", date := "2025-01-31", description := some description, amount := .zero }

/-- A word is found whatever its letters become in lower case where it ends. -/
theorem evalTerm_of_mem_words_final_sigma :
    Comparison.ofText? "ΟΔΟΣ" = none ∧
      "ΟΔΟΣ".toList ∈ Text.words (described "ΟΔΟΣ ΑΒΓ").descriptionText.toList ∧
      ∀ today, evalTerm today "ΟΔΟΣ" (described "ΟΔΟΣ ΑΒΓ") = .ok true := by
  have hbare : Comparison.ofText? "ΟΔΟΣ" = none := by decide +kernel
  have hmem : "ΟΔΟΣ".toList ∈ Text.words (described "ΟΔΟΣ ΑΒΓ").descriptionText.toList := by
    decide +kernel
  refine ⟨hbare, hmem, fun today => ?_⟩
  exact (evalTerm_of_mem_words hbare hmem today).1 (by decide +kernel) (by decide +kernel)

/-- A word of a description that ends in signs is not found, though it is where numerals follow. -/
theorem evalTerm_mem_words_signs :
    tokenize "C++" = [.term "C++"] ∧ Comparison.ofText? "C++" = none ∧
      "C++".toList ∈ Text.words (described "Learn C++ now").descriptionText.toList ∧
      (∀ today, evalTerm today "C++" (described "Learn C++ now") = .ok false) ∧
      ∀ today, evalTerm today "C++" (described "Learn C++17 now") = .ok true := by
  have hbare : Comparison.ofText? "C++" = none := by decide +kernel
  refine ⟨by decide +kernel, hbare, by decide +kernel, fun today => ?_, fun today => ?_⟩
  · rw [evalTerm_of_bare hbare]
    decide +kernel
  · rw [evalTerm_of_bare hbare]
    decide +kernel

end Query

end SpendingLedger

import SpendingLedger.Proofs.Text.Words
import SpendingLedger.Text.Case

/-!
# Lower case and space

A space has no case, no character is lowered to a space, and a space ends a word for the capital
sigma.  So a text is lowered piece by piece: its spaces stay where they are, and the words of the
text in lower case are its words, each in lower case.

## Main results

* `eq_or_isSpace_of_mem_lowerChar` — **a character stays in lower case, or no space is involved.**
* `lowerChars_append_cons` — **what stands before and behind a space is lowered by itself.**
* `words_lowerChars` — the words of a text in lower case.
* `trimmed_lowerChars_iff` — the ends of a text in lower case.
-/

namespace SpendingLedger.Text

/-! ### The ranges of spaces -/

/-- The code points of the characters that separate words. -/
def spaceRanges : List (Nat × Nat) :=
  [(9, 13), (0x1C, 0x20), (0x85, 0x85), (0xA0, 0xA0), (0x1680, 0x1680), (0x2000, 0x200A),
    (0x2028, 0x2029), (0x202F, 0x202F), (0x205F, 0x205F), (0x3000, 0x3000)]

theorem exists_range_of_isSpace {c : Char} (h : isSpace c = true) :
    ∃ r ∈ spaceRanges, r.1 ≤ c.toNat ∧ c.toNat ≤ r.2 := by
  simp only [isSpace, isWhite, Bool.or_eq_true, Bool.and_eq_true, decide_eq_true_eq] at h
  simp only [spaceRanges, List.mem_cons, List.not_mem_nil, or_false, exists_eq_or_imp,
    exists_eq_left]
  omega

/-- A space lies in no set of code points that leaves out the ranges of spaces. -/
theorem inRanges_of_isSpace {ranges : List (Nat × Nat)}
    (hdisjoint : ∀ r ∈ ranges, ∀ s ∈ spaceRanges, r.2 < s.1 ∨ s.2 < r.1) {c : Char}
    (hc : isSpace c = true) : inRanges c.toNat ranges = false := by
  refine Bool.eq_false_iff.2 fun hin => ?_
  obtain ⟨r, hr, hfirst, hlast⟩ := exists_mem_of_inRanges hin
  obtain ⟨s, hs, hlow, hhigh⟩ := exists_range_of_isSpace hc
  have := hdisjoint r hr s hs
  omega

/-! ### The runs of the case mapping -/

/-- A counterpart is the code point itself or lies in the shifted run. -/
theorem counterpart_cases (n : Nat) (runs : List CaseRun) :
    counterpart n runs = n ∨ ∃ r ∈ runs, r.first ≤ n ∧ n ≤ r.last ∧
      counterpart n runs = (n + r.shift).toNat := by
  induction runs with
  | nil => exact Or.inl rfl
  | cons r rest ih =>
    unfold counterpart
    split
    · exact Or.inl rfl
    next hfirst =>
    split
    · next hrun =>
      exact Or.inr ⟨r, List.mem_cons_self, Nat.le_of_not_lt hfirst, hrun.1, rfl⟩
    · rcases ih with hsame | ⟨r', hmem, hin⟩
      · exact Or.inl hsame
      · exact Or.inr ⟨r', List.mem_cons_of_mem r hmem, hin⟩

/-- No run holds a space, and none is shifted to a space. -/
theorem runs_disjoint_spaces : ∀ r ∈ lowerRuns, ∀ s ∈ spaceRanges,
    (r.last < s.1 ∨ s.2 < r.first) ∧
      ((r.last + r.shift : Int) < s.1 ∨ (s.2 : Int) < r.first + r.shift) := by
  decide +kernel

/-- What is no code point of a character stands for the zero character. -/
theorem toNat_ofNat_cases (n : Nat) : (Char.ofNat n).toNat = n ∨ (Char.ofNat n).toNat = 0 := by
  by_cases hn : n.isValidChar
  · rw [Char.ofNat, dif_pos hn]
    exact Or.inl rfl
  · rw [Char.ofNat, dif_neg hn]
    exact Or.inr rfl

/-- A character with a lower-case counterpart is no space, and neither is the counterpart. -/
theorem counterpart_eq_or_isSpace (c : Char) :
    Char.ofNat (counterpart c.toNat lowerRuns) = c ∨
      (isSpace (Char.ofNat (counterpart c.toNat lowerRuns)) = false ∧ isSpace c = false) := by
  rcases counterpart_cases c.toNat lowerRuns with hsame | ⟨r, hr, hfirst, hlast, hshift⟩
  · rw [hsame, Char.ofNat_toNat]
    exact Or.inl rfl
  -- no run meets a space, neither before nor after the shift
  refine Or.inr ⟨Bool.eq_false_iff.2 fun hspace => ?_, Bool.eq_false_iff.2 fun hspace => ?_⟩
  · obtain ⟨s, hs, hle, hge⟩ := exists_range_of_isSpace hspace
    have hdisjoint := (runs_disjoint_spaces r hr s hs).2
    have hpos : ∀ s ∈ spaceRanges, 0 < s.1 := by decide
    have hzero := hpos s hs
    rw [hshift] at hle hge
    rcases toNat_ofNat_cases (c.toNat + r.shift : Int).toNat with heq | heq <;> omega
  · obtain ⟨s, hs, hle, hge⟩ := exists_range_of_isSpace hspace
    have hdisjoint := (runs_disjoint_spaces r hr s hs).1
    omega

/-! ### Single characters -/

/-- A character in lower case is the character itself, or neither of the two is a space. -/
theorem eq_or_isSpace_of_mem_lowerChar {c d : Char} (h : d ∈ lowerChar c) :
    d = c ∨ (isSpace d = false ∧ isSpace c = false) := by
  unfold lowerChar at h
  split at h
  · next hc =>
    subst hc
    simp only [List.mem_cons, List.not_mem_nil, or_false] at h
    rcases h with rfl | rfl <;> exact Or.inr (by decide)
  · rw [List.mem_singleton.1 h]
    exact counterpart_eq_or_isSpace c

theorem lowerChar_ne_nil (c : Char) : lowerChar c ≠ [] := by
  unfold lowerChar
  split <;> simp

/-- A space is its own lower case. -/
theorem lowerChar_of_isSpace {sep : Char} (hsep : isSpace sep = true) : lowerChar sep = [sep] := by
  unfold lowerChar
  split
  · next hc =>
    subst hc
    exact absurd hsep (by decide)
  · rcases counterpart_eq_or_isSpace sep with heq | ⟨-, hnot⟩
    · rw [heq]
    · rw [hsep] at hnot
      cases hnot

/-- In lower case a text begins with something for its first character, which is that character
itself or holds as little space as it. -/
theorem exists_lowerAfter_cons (before : List Char) (c : Char) (cs : List Char) :
    ∃ first, lowerAfter before (c :: cs) = first ++ lowerAfter (c :: before) cs ∧ first ≠ [] ∧
      ∀ d ∈ first, d = c ∨ (isSpace d = false ∧ isSpace c = false) := by
  refine ⟨_, rfl, ?_, ?_⟩
  · split
    · simp
    · exact lowerChar_ne_nil c
  · intro d hd
    split at hd
    · next hc =>
      subst hc
      rw [List.mem_singleton.1 hd]
      split <;> exact Or.inr (by decide)
    · exact eq_or_isSpace_of_mem_lowerChar hd

@[simp] theorem lowerChars_eq_nil_iff {cs : List Char} : lowerChars cs = [] ↔ cs = [] := by
  cases cs with
  | nil => simp
  | cons c cs =>
    obtain ⟨first, heq, hne, -⟩ := exists_lowerAfter_cons [] c cs
    simp [lowerChars, heq, hne]

/-! ### The ends of a text -/

section Ends

variable {p : Char → Bool}

/-- A character and what it is lowered to are of one class, where the class holds nothing but
spaces. -/
theorem eq_of_eq_or_isSpace (hp : ∀ c, p c = true → isSpace c = true) {c d : Char}
    (h : d = c ∨ (isSpace d = false ∧ isSpace c = false)) : p d = p c := by
  have hnot : ∀ x, isSpace x = false → p x = false := fun x hx =>
    Bool.eq_false_iff.2 fun hpx => by
      rw [hp x hpx] at hx
      cases hx
  rcases h with rfl | ⟨hd, hc⟩
  · rfl
  · rw [hnot d hd, hnot c hc]

theorem head?_lowerAfter (hp : ∀ c, p c = true → isSpace c = true) (before cs : List Char) :
    (lowerAfter before cs).head?.map p = cs.head?.map p := by
  cases cs with
  | nil => rfl
  | cons c cs =>
    obtain ⟨first, heq, hne, hspace⟩ := exists_lowerAfter_cons before c cs
    obtain ⟨d, ds, rfl⟩ := List.exists_cons_of_ne_nil hne
    rw [heq]
    exact congrArg some (eq_of_eq_or_isSpace hp (hspace d List.mem_cons_self))

theorem getLast?_lowerAfter (hp : ∀ c, p c = true → isSpace c = true) (before cs : List Char) :
    (lowerAfter before cs).getLast?.map p = cs.getLast?.map p := by
  induction cs generalizing before with
  | nil => rfl
  | cons c cs ih =>
    obtain ⟨first, heq, hne, hspace⟩ := exists_lowerAfter_cons before c cs
    rw [heq, List.getLast?_append]
    cases cs with
    | nil =>
      rw [lowerAfter, List.getLast?_nil, Option.none_or, List.getLast?_eq_some_getLast hne]
      exact congrArg some (eq_of_eq_or_isSpace hp (hspace _ (List.getLast_mem hne)))
    | cons d cs =>
      have hrest := ih (c :: before)
      cases hlast : (lowerAfter (c :: before) (d :: cs)).getLast? with
      | none =>
        rw [hlast, List.getLast?_cons] at hrest
        cases hrest
      | some e =>
        rw [hlast] at hrest
        rw [Option.some_or, hrest, List.getLast?_cons_cons]

/-- Whether the ends of two texts are members is all that counts for their being trimmed. -/
theorem trimmed_congr {as bs : List Char}
    (hhead : as.head?.map p = bs.head?.map p) (hlast : as.getLast?.map p = bs.getLast?.map p) :
    Trimmed p as ↔ Trimmed p bs := by
  have hends : ∀ o : Option Char, (o.all fun c => !p c) = (o.map p).all fun b => !b := by
    intro o
    cases o <;> rfl
  rw [trimmed_iff, trimmed_iff, hends as.head?, hends as.getLast?, hends bs.head?,
    hends bs.getLast?, hhead, hlast]

end Ends

/-- **A text is trimmed of white space exactly if it is so in lower case.** -/
theorem trimmed_lowerChars_iff (cs : List Char) :
    Trimmed isWhite (lowerChars cs) ↔ Trimmed isWhite cs :=
  trimmed_congr (head?_lowerAfter (fun _ => isSpace_of_isWhite) [] cs)
    (getLast?_lowerAfter (fun _ => isSpace_of_isWhite) [] cs)

/-! ### A space inside a text -/

variable {sep : Char}

theorem nextIsCased_cons (c : Char) (cs : List Char) :
    nextIsCased (c :: cs) =
      if inRanges c.toNat caseIgnorableRanges then nextIsCased cs
      else inRanges c.toNat casedRanges := by
  unfold nextIsCased
  cases hc : inRanges c.toNat caseIgnorableRanges with
  | true => simp [hc]
  | false => simp [hc]

/-- A space is not cased and not case-ignorable, so nothing is looked up behind it. -/
theorem nextIsCased_append_cons (hsep : isSpace sep = true) (cs rest : List Char) :
    nextIsCased (cs ++ sep :: rest) = nextIsCased cs := by
  induction cs with
  | nil =>
    have hignorable : inRanges sep.toNat caseIgnorableRanges = false :=
      inRanges_of_isSpace (by decide +kernel) hsep
    have hcased : inRanges sep.toNat casedRanges = false :=
      inRanges_of_isSpace (by decide +kernel) hsep
    rw [List.nil_append, nextIsCased_cons, hignorable, hcased]
    rfl
  | cons c cs ih => rw [List.cons_append, nextIsCased_cons, nextIsCased_cons, ih]

/-- A space between the text before and the text that is lowered hides the text before. -/
theorem lowerAfter_append_cons_left (hsep : isSpace sep = true) (before rest cs : List Char) :
    lowerAfter (before ++ sep :: rest) cs = lowerAfter before cs := by
  induction cs generalizing before with
  | nil => rfl
  | cons c cs ih =>
    have hrest := ih (c :: before)
    rw [List.cons_append] at hrest
    unfold lowerAfter endsWord
    rw [nextIsCased_append_cons hsep, hrest]

/-- What stands before a space and what stands behind it is lowered by itself. -/
theorem lowerAfter_append_cons (hsep : isSpace sep = true) (before cs rest : List Char) :
    lowerAfter before (cs ++ sep :: rest) =
      lowerAfter before cs ++ sep :: lowerChars rest := by
  induction cs generalizing before with
  | nil =>
    have hsigma : sep ≠ 'Σ' := by
      rintro rfl
      exact absurd hsep (by decide)
    have hhidden := lowerAfter_append_cons_left hsep [] before rest
    rw [List.nil_append] at hhidden ⊢
    unfold lowerAfter
    rw [if_neg hsigma, lowerChar_of_isSpace hsep, hhidden]
    rfl
  | cons c cs ih =>
    rw [List.cons_append, lowerAfter, ih, lowerAfter, List.append_assoc]
    unfold endsWord
    rw [nextIsCased_append_cons hsep]

/-- What stands before a space and what stands behind it is lowered by itself. -/
theorem lowerChars_append_cons (hsep : isSpace sep = true) (cs rest : List Char) :
    lowerChars (cs ++ sep :: rest) = lowerChars cs ++ sep :: lowerChars rest :=
  lowerAfter_append_cons hsep [] cs rest

/-- A character of the text in lower case is lowered from one of the text. -/
theorem exists_of_mem_lowerAfter {before cs : List Char} {d : Char}
    (h : d ∈ lowerAfter before cs) :
    ∃ c ∈ cs, d = c ∨ (isSpace d = false ∧ isSpace c = false) := by
  induction cs generalizing before with
  | nil => cases h
  | cons c cs ih =>
    obtain ⟨first, heq, -, hspace⟩ := exists_lowerAfter_cons before c cs
    rw [heq] at h
    rcases List.mem_append.1 h with h | h
    · exact ⟨c, List.mem_cons_self, hspace d h⟩
    · obtain ⟨x, hx, hd⟩ := ih h
      exact ⟨x, List.mem_cons_of_mem c hx, hd⟩

/-- No space comes up in lower case. -/
theorem isSpace_of_mem_lowerChars {cs : List Char} (h : ∀ c ∈ cs, isSpace c = false) :
    ∀ d ∈ lowerChars cs, isSpace d = false := by
  intro d hd
  obtain ⟨c, hc, hspace⟩ := exists_of_mem_lowerAfter hd
  rw [eq_of_eq_or_isSpace (fun _ => id) hspace]
  exact h c hc

/-! ### Pieces in lower case -/

/-- A text is lowered piece by piece. -/
theorem pieces_lowerChars (cs : List Char) :
    pieces isSpace (lowerChars cs) = (pieces isSpace cs).map lowerChars := by
  induction cs using runs_induction (p := isSpace) with
  | run w hw =>
    rw [pieces_of_forall hw, pieces_of_forall (isSpace_of_mem_lowerChars hw)]
    rfl
  | append w sep rest hw hsep ih =>
    rw [lowerChars_append_cons hsep, pieces_append_cons (isSpace_of_mem_lowerChars hw) hsep,
      pieces_append_cons hw hsep, ih]
    rfl

theorem words_lowerChars (cs : List Char) : words (lowerChars cs) = (words cs).map lowerChars := by
  have hempty : ∀ w, (lowerChars w).isEmpty = w.isEmpty := fun w => by
    rw [Bool.eq_iff_iff, List.isEmpty_iff, List.isEmpty_iff, lowerChars_eq_nil_iff]
  unfold words
  rw [pieces_lowerChars, List.filter_map]
  simp only [Function.comp_def, hempty]

/-- Texts joined by a blank are lowered one by one. -/
theorem lowerChars_intercalate (parts : List (List Char)) :
    lowerChars (List.intercalate [' '] parts) = List.intercalate [' '] (parts.map lowerChars) := by
  induction parts with
  | nil => rfl
  | cons w rest ih =>
    cases rest with
    | nil => rw [List.intercalate_singleton, List.map_singleton, List.intercalate_singleton]
    | cons v rest =>
      rw [List.intercalate_cons_cons, List.append_assoc, List.singleton_append,
        lowerChars_append_cons (by decide), ih]
      simp only [List.map_cons, List.intercalate_cons_cons, List.append_assoc,
        List.singleton_append]

/-- The spaces of a text are those of the text in lower case. -/
theorem mem_lowerChars_of_isSpace {cs : List Char} {c : Char} (hc : isSpace c = true)
    (h : c ∈ cs) : c ∈ lowerChars cs := by
  obtain ⟨left, right, rfl⟩ := List.append_of_mem h
  rw [lowerChars_append_cons hc]
  simp

end SpendingLedger.Text

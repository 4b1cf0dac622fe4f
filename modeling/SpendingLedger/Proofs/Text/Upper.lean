import Mathlib.Data.List.Basic
import SpendingLedger.Proofs.Number.Spelling
import SpendingLedger.Proofs.Text.Case

/-!
# What the upper-case form tells of a text

The upper-case form of a text does not tell the text: the dotless i, the long s and ligatures become
letters from A to Z too.  Of two kinds of texts it does.  Digits have no case and nothing becomes a
digit, so a text is made of digits exactly if its upper-case form is.  And a word of letters that
nothing but their own small letters become is written in small letters and capitals only.

## Main definitions

* `UpperSpares` — the sets of code points that the mappings to upper case leave alone.
* `plainCapitals` — capitals that nothing but their small letters become.

## Main results

* `upperChars_of_isDigit`, `forall_isDigit_upperChars_iff` — **digits in upper case are digits.**
* `upperChars_eq_iff` — **a word of plain capitals is written in small letters and capitals.**
-/

namespace SpendingLedger.Text

/-- A character becomes several others in upper case, or one that is its counterpart. -/
theorem upperChar_cases (c : Char) :
    (∃ codes, (c.toNat, codes) ∈ upperExpansions ∧ upperChar c = codes.map Char.ofNat) ∨
      upperChar c = [Char.ofNat (counterpart c.toNat upperRuns)] := by
  unfold upperChar
  cases hcodes : upperExpansions.lookup c.toNat with
  | none => exact Or.inr rfl
  | some codes =>
    obtain ⟨before, after, hall, -⟩ := List.lookup_eq_some_iff.1 hcodes
    exact Or.inl ⟨codes, by simp [hall], rfl⟩

/-! ### Digits -/

/-- Whether the mappings to upper case leave a set of code points alone: they change none of it, and
they change nothing to one of it. -/
structure UpperSpares (ranges : List (Nat × Nat)) : Prop where
  zero_lt : ∀ s ∈ ranges, 0 < s.1
  runs : ∀ r ∈ upperRuns, ∀ s ∈ ranges, (r.last < s.1 ∨ s.2 < r.first) ∧
    ((r.last + r.shift).toNat < s.1 ∨ s.2 < (r.first + r.shift).toNat)
  expansions : ∀ p ∈ upperExpansions, ∀ s ∈ ranges, (p.1 < s.1 ∨ s.2 < p.1) ∧
    ∀ code ∈ p.2, code < s.1 ∨ s.2 < code

/-- A character in upper case is the character itself, or neither of the two is in a set that the
mappings leave alone. -/
theorem UpperSpares.eq_or_of_mem_upperChar {ranges : List (Nat × Nat)} (h : UpperSpares ranges)
    {c d : Char} (hd : d ∈ upperChar c) :
    d = c ∨ ∀ s ∈ ranges, (c.toNat < s.1 ∨ s.2 < c.toNat) ∧ (d.toNat < s.1 ∨ s.2 < d.toNat) := by
  rcases upperChar_cases c with ⟨codes, hcodes, hupper⟩ | hupper
  · refine Or.inr fun s hs => ?_
    rw [hupper] at hd
    obtain ⟨code, hcode, rfl⟩ := List.mem_map.1 hd
    obtain ⟨hbefore, hafter⟩ := h.expansions _ hcodes s hs
    have hzero := h.zero_lt s hs
    have hafter := hafter code hcode
    refine ⟨hbefore, ?_⟩
    rcases toNat_ofNat_cases code with heq | heq <;> omega
  rw [hupper, List.mem_singleton] at hd
  subst hd
  rcases counterpart_cases c.toNat upperRuns with hsame | ⟨r, hr, hfirst, hlast, hshift⟩
  · rw [hsame, Char.ofNat_toNat]
    exact Or.inl rfl
  · refine Or.inr fun s hs => ?_
    obtain ⟨hbefore, hafter⟩ := h.runs r hr s hs
    have hzero := h.zero_lt s hs
    rw [hshift]
    rcases toNat_ofNat_cases (c.toNat + r.shift : Int).toNat with heq | heq <;> omega

/-- Blocks of code points without case in which all digits lie, with other characters between
them. -/
def digitBlocks : List (Nat × Nat) :=
  [(0x30, 0x39), (0xB2, 0xB3), (0xB9, 0xB9), (0x660, 0x1099), (0x1369, 0x1371), (0x17E0, 0x1C59),
   (0x2070, 0x2089), (0x2460, 0x2490), (0x24EA, 0x2792), (0xA620, 0xA629), (0xA8D0, 0xAA59),
   (0xABF0, 0xABF9), (0xFF10, 0xFF19), (0x104A0, 0x104A9), (0x10A40, 0x10A43),
   (0x10D30, 0x11739), (0x118E0, 0x16B59), (0x1D7CE, 0x1E2F9), (0x1E950, 0x1FBF9)]

theorem upperSpares_digitBlocks : UpperSpares digitBlocks where
  zero_lt := by decide +kernel
  runs := by decide +kernel
  expansions := by decide +kernel

theorem exists_block_of_mem : ∀ r ∈ decimalDigitRanges ++ otherDigitRanges,
    ∃ s ∈ digitBlocks, s.1 ≤ r.1 ∧ r.2 ≤ s.2 := by
  decide +kernel

theorem exists_block_of_isDigit {c : Char} (h : isDigit c = true) :
    ∃ s ∈ digitBlocks, s.1 ≤ c.toNat ∧ c.toNat ≤ s.2 := by
  have hrange : ∃ r ∈ decimalDigitRanges ++ otherDigitRanges, r.1 ≤ c.toNat ∧ c.toNat ≤ r.2 := by
    rcases Bool.or_eq_true_iff.1 h with hdecimal | hother
    · obtain ⟨d, hd⟩ := Option.isSome_iff_exists.1 hdecimal
      obtain ⟨r, hr, hlow, hhigh, -⟩ := exists_range_of_digitIn hd
      exact ⟨r, List.mem_append_left _ hr, hlow, hhigh⟩
    · obtain ⟨r, hr, hlow, hhigh⟩ := exists_mem_of_inRanges hother
      exact ⟨r, List.mem_append_right _ hr, hlow, hhigh⟩
  obtain ⟨r, hr, hlow, hhigh⟩ := hrange
  obtain ⟨s, hs, hfirst, hlast⟩ := exists_block_of_mem r hr
  exact ⟨s, hs, Nat.le_trans hfirst hlow, Nat.le_trans hhigh hlast⟩

/-- A character in upper case is the character itself, or neither of the two is a digit. -/
theorem eq_or_isDigit_of_mem_upperChar {c d : Char} (h : d ∈ upperChar c) :
    d = c ∨ (isDigit d = false ∧ isDigit c = false) := by
  refine (upperSpares_digitBlocks.eq_or_of_mem_upperChar h).imp_right fun hapart => ⟨?_, ?_⟩
  · refine Bool.eq_false_iff.2 fun hdigit => ?_
    obtain ⟨s, hs, hlow, hhigh⟩ := exists_block_of_isDigit hdigit
    have := (hapart s hs).2
    omega
  · refine Bool.eq_false_iff.2 fun hdigit => ?_
    obtain ⟨s, hs, hlow, hhigh⟩ := exists_block_of_isDigit hdigit
    have := (hapart s hs).1
    omega

theorem upperChar_ne_nil (c : Char) : upperChar c ≠ [] := by
  rcases upperChar_cases c with ⟨codes, hcodes, hupper⟩ | hupper
  · have hsome : ∀ p ∈ upperExpansions, p.2 ≠ [] := by decide +kernel
    rw [hupper]
    exact mt List.map_eq_nil_iff.1 (hsome _ hcodes)
  · rw [hupper]
    exact List.cons_ne_nil _ _

/-- A digit has no case. -/
theorem upperChar_of_isDigit {c : Char} (h : isDigit c = true) : upperChar c = [c] := by
  have hsame : ∀ d ∈ upperChar c, d = c := fun d hd => by
    rcases eq_or_isDigit_of_mem_upperChar hd with heq | ⟨-, hnot⟩
    · exact heq
    · rw [h] at hnot
      cases hnot
  rcases upperChar_cases c with ⟨codes, hcodes, hupper⟩ | hupper
  · obtain ⟨s, hs, hlow, hhigh⟩ := exists_block_of_isDigit h
    have := (upperSpares_digitBlocks.expansions _ hcodes s hs).1
    omega
  · rw [hupper] at hsame ⊢
    rw [hsame _ List.mem_cons_self]

/-- A text of digits is its own upper-case form. -/
theorem upperChars_of_isDigit {cs : List Char} (h : ∀ c ∈ cs, isDigit c = true) :
    upperChars cs = cs := by
  induction cs with
  | nil => rfl
  | cons c cs ih =>
    obtain ⟨hc, hcs⟩ := List.forall_mem_cons.1 h
    rw [upperChars, List.flatMap_cons, upperChar_of_isDigit hc]
    exact congrArg (c :: ·) (ih hcs)

/-- A text is made of digits exactly if its upper-case form is. -/
theorem forall_isDigit_upperChars_iff {cs : List Char} :
    (∀ d ∈ upperChars cs, isDigit d = true) ↔ ∀ c ∈ cs, isDigit c = true := by
  constructor
  · intro h c hc
    obtain ⟨d, hd⟩ := List.exists_mem_of_ne_nil _ (upperChar_ne_nil c)
    have hdigit := h d (List.mem_flatMap.2 ⟨c, hc, hd⟩)
    rcases eq_or_isDigit_of_mem_upperChar hd with rfl | ⟨hnot, -⟩
    · exact hdigit
    · rw [hdigit] at hnot
      cases hnot
  · intro h
    rwa [upperChars_of_isDigit h]

theorem upperChars_eq_nil_iff {cs : List Char} : upperChars cs = [] ↔ cs = [] := by
  rw [upperChars, List.flatMap_eq_nil_iff, List.eq_nil_iff_forall_not_mem]
  exact forall₂_congr fun c _ => iff_false_intro (upperChar_ne_nil c)

/-! ### Plain capitals -/

/-- Capitals that nothing but their small letters become; the operators are written in them. -/
def plainCapitals : List Char := ['A', 'D', 'N', 'O', 'R', 'T']

/-- A plain capital and its small letter have the plain capital as upper-case form. -/
theorem upperChar_plainCapitals : ∀ l ∈ plainCapitals,
    upperChar l = [l.toUpper] ∧
      upperChar (Char.ofNat (l.toNat + 32)) = [(Char.ofNat (l.toNat + 32)).toUpper] :=
  List.forall_iff_forall_mem.1 (by decide +kernel)

theorem upperChar_of_toNat {c l : Char} (hl : l ∈ plainCapitals) (h : c.toNat = l.toNat + 32) :
    upperChar c = [c.toUpper] := by
  obtain rfl : c = Char.ofNat (l.toNat + 32) := by rw [← h, Char.ofNat_toNat]
  exact (upperChar_plainCapitals l hl).2

/-- A run of the mapping that ends at a plain capital is the run of small letters, and no other
character becomes plain capitals. -/
theorem plainCapitals_apart : ∀ l ∈ plainCapitals, l.toNat ≠ 0 ∧
    ∀ r ∈ upperRuns, (r.last + r.shift : Int) < l.toNat ∨ (l.toNat : Int) < r.first + r.shift ∨
      r.shift = -32 :=
  List.forall_iff_forall_mem.1 (by decide +kernel)

theorem expansions_not_plain : ∀ p ∈ upperExpansions,
    ∃ code ∈ p.2, Char.ofNat code ∉ plainCapitals := by
  decide +kernel

/-- What becomes plain capitals is a letter from A to Z in either case. -/
theorem upperChar_of_forall_mem {c : Char} (h : ∀ d ∈ upperChar c, d ∈ plainCapitals) :
    upperChar c = [c.toUpper] := by
  rcases upperChar_cases c with ⟨codes, hcodes, hupper⟩ | hupper
  · obtain ⟨code, hcode, hnot⟩ := expansions_not_plain _ hcodes
    exact absurd (h _ (hupper ▸ List.mem_map_of_mem hcode)) hnot
  have hplain : Char.ofNat (counterpart c.toNat upperRuns) ∈ plainCapitals :=
    h _ (hupper ▸ List.mem_cons_self)
  rcases counterpart_cases c.toNat upperRuns with hsame | ⟨r, hr, hfirst, hlast, hshift⟩
  · rw [hsame, Char.ofNat_toNat] at hplain
    exact (upperChar_plainCapitals c hplain).1
  · obtain ⟨hzero, hruns⟩ := plainCapitals_apart _ hplain
    have hrun := hruns r hr
    refine upperChar_of_toNat hplain ?_
    rw [hshift] at hzero hrun ⊢
    rcases toNat_ofNat_cases (c.toNat + r.shift : Int).toNat with heq | heq <;> omega

/-- A character from a to z stands 32 places behind its capital, and others are not changed. -/
theorem toUpper_cases (c : Char) : c.toNat = c.toUpper.toNat + 32 ∨ c.toUpper = c := by
  unfold Char.toUpper
  split
  · next hsmall =>
    have hlow : 97 ≤ c.toNat := hsmall.1
    have hhigh : c.toNat ≤ 122 := hsmall.2
    refine Or.inl ?_
    change c.toNat = (c.val + ('A'.val - 'a'.val)).toNat + 32
    have hsub : ('A'.val - 'a'.val : UInt32).toNat = 2 ^ 32 - 32 := by decide
    have hval : c.val.toNat = c.toNat := rfl
    rw [UInt32.toNat_add, hsub, hval]
    omega
  · exact Or.inr rfl

/-- A letter whose capital from A to Z is plain has that capital as upper-case form. -/
theorem upperChar_of_toUpper_mem {c : Char} (h : c.toUpper ∈ plainCapitals) :
    upperChar c = [c.toUpper] := by
  rcases toUpper_cases c with hsmall | hsame
  · exact upperChar_of_toNat h hsmall
  · rw [hsame] at h
    exact (upperChar_plainCapitals c h).1

/-- **A word of plain capitals is written in small letters and capitals.** -/
theorem upperChars_eq_iff {cs word : List Char} (hword : ∀ d ∈ word, d ∈ plainCapitals) :
    upperChars cs = word ↔ cs.map Char.toUpper = word := by
  have hmap : (∀ c ∈ cs, upperChar c = [c.toUpper]) → upperChars cs = cs.map Char.toUpper := by
    intro h
    rw [upperChars, List.flatMap_def, List.map_congr_left h, ← List.flatMap_def,
      ← List.map_eq_flatMap]
  constructor
  · rintro rfl
    refine (hmap fun c hc => upperChar_of_forall_mem fun d hd => ?_).symm
    exact hword d (List.mem_flatMap.2 ⟨c, hc, hd⟩)
  · rintro rfl
    exact hmap fun c hc => upperChar_of_toUpper_mem (hword _ (List.mem_map_of_mem hc))

end SpendingLedger.Text

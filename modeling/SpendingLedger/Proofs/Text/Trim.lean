import Mathlib.Data.List.TakeWhile
import SpendingLedger.Text.Space

/-!
# Trimmed texts

A text is trimmed when no member of the class stands at either end.  Trimming gives such a text and
leaves such a text as it is, and the words of a text, joined by single spaces, make one.

## Main definitions

* `Trimmed` — the texts without a member of a class at their ends.

## Main results

* `trimmed_trimBy` — trimming gives a trimmed text.
* `trimBy_of_trimmed` — **a trimmed text stays as it is.**
* `trimBy_append_left`, `trimBy_append_right` — members at the ends of a text do not matter.
* `trimBy_eq_nil_iff`, `isEmpty_trim` — nothing is left exactly of a text of members.
* `trimmed_intercalate` — trimmed parts that are not empty make a trimmed text.
-/

namespace SpendingLedger.Text

/-- Whether no member of `p` stands at either end. -/
structure Trimmed (p : Char → Bool) (cs : List Char) : Prop where
  head : ∀ c, cs.head? = some c → p c = false
  last : ∀ c, cs.getLast? = some c → p c = false

theorem trimmed_iff {p : Char → Bool} {cs : List Char} :
    Trimmed p cs ↔
      cs.head?.all (fun c => !p c) = true ∧ cs.getLast?.all (fun c => !p c) = true := by
  have hall : ∀ o : Option Char, o.all (fun c => !p c) = true ↔ ∀ c, o = some c → p c = false := by
    intro o
    cases o <;> simp
  rw [hall, hall]
  exact ⟨fun h => ⟨h.head, h.last⟩, fun h => ⟨h.1, h.2⟩⟩

instance (p : Char → Bool) (cs : List Char) : Decidable (Trimmed p cs) :=
  decidable_of_iff _ trimmed_iff.symm

theorem trimmed_nil (p : Char → Bool) : Trimmed p [] where
  head := fun _ h => by cases h
  last := fun _ h => by cases h

/-- A text that is trimmed by a class is trimmed by every smaller one. -/
theorem Trimmed.mono {p q : Char → Bool} {cs : List Char} (h : Trimmed p cs)
    (hpq : ∀ c, q c = true → p c = true) : Trimmed q cs := by
  have hnot : ∀ c, p c = false → q c = false := by
    intro c hc
    cases hq : q c with
    | false => rfl
    | true => rw [hpq c hq] at hc; cases hc
  exact ⟨fun c hc => hnot c (h.head c hc), fun c hc => hnot c (h.last c hc)⟩

/-- What is trimmed of all that separates words is trimmed of white space. -/
theorem Trimmed.white {cs : List Char} (h : Trimmed isSpace cs) : Trimmed isWhite cs :=
  h.mono fun _ => isSpace_of_isWhite

theorem dropWhile_of_head {p : Char → Bool} {cs : List Char}
    (h : ∀ c, cs.head? = some c → p c = false) : cs.dropWhile p = cs := by
  cases cs with
  | nil => rfl
  | cons c cs => rw [List.dropWhile_cons_of_neg (by simpa using h c rfl)]

theorem head_dropWhile {p : Char → Bool} {cs : List Char} {c : Char}
    (h : (cs.dropWhile p).head? = some c) : p c = false := by
  have hnot := List.head?_dropWhile_not p cs
  rw [h] at hnot
  simpa using hnot

/-! ### The ends of a text -/

/-- What is trimmed at the right end are members. -/
theorem exists_trimRightBy (p : Char → Bool) (cs : List Char) :
    ∃ tail, cs = trimRightBy p cs ++ tail ∧ ∀ c ∈ tail, p c = true := by
  refine ⟨(cs.reverse.takeWhile p).reverse, ?_, ?_⟩
  · unfold trimRightBy
    rw [← List.reverse_append, List.takeWhile_append_dropWhile, List.reverse_reverse]
  · intro c hc
    exact List.all_eq_true.1 List.all_takeWhile c (List.mem_reverse.1 hc)

/-- A text is what trimming leaves of it between members. -/
theorem exists_trimBy (p : Char → Bool) (cs : List Char) :
    ∃ left right, cs = left ++ (trimBy p cs ++ right) ∧ (∀ c ∈ left, p c = true) ∧
      ∀ c ∈ right, p c = true := by
  obtain ⟨right, hrest, hright⟩ := exists_trimRightBy p (cs.dropWhile p)
  refine ⟨cs.takeWhile p, right, ?_, fun c hc => List.mem_takeWhile_imp hc, hright⟩
  rw [trimBy, ← hrest, List.takeWhile_append_dropWhile]

theorem length_trimRightBy_le (p : Char → Bool) (cs : List Char) :
    (trimRightBy p cs).length ≤ cs.length := by
  have hdrop := length_dropWhile_le p cs.reverse
  rw [List.length_reverse] at hdrop
  rwa [trimRightBy, List.length_reverse]

theorem trimRightBy_of_last {p : Char → Bool} {cs : List Char}
    (h : ∀ c, cs.getLast? = some c → p c = false) : trimRightBy p cs = cs := by
  rw [trimRightBy, dropWhile_of_head fun c hc => h c (by rwa [List.head?_reverse] at hc),
    List.reverse_reverse]

theorem last_trimRightBy {p : Char → Bool} {cs : List Char} {c : Char}
    (h : (trimRightBy p cs).getLast? = some c) : p c = false := by
  rw [trimRightBy, List.getLast?_reverse] at h
  exact head_dropWhile h

/-- A trimmed text stays as it is. -/
theorem trimBy_of_trimmed {p : Char → Bool} {cs : List Char} (h : Trimmed p cs) :
    trimBy p cs = cs := by
  rw [trimBy, dropWhile_of_head h.head, trimRightBy_of_last h.last]

/-- Trimming leaves nothing exactly of a text that holds nothing but members. -/
theorem trimBy_eq_nil_iff {p : Char → Bool} {cs : List Char} :
    trimBy p cs = [] ↔ ∀ c ∈ cs, p c = true := by
  rw [trimBy, trimRightBy, List.reverse_eq_nil_iff, List.dropWhile_eq_nil_iff]
  constructor
  · intro h
    -- what is left after the left end would begin with another character
    cases hrest : cs.dropWhile p with
    | nil => exact List.dropWhile_eq_nil_iff.1 hrest
    | cons c rest =>
      have hnot : p c = false := head_dropWhile (by rw [hrest]; rfl)
      have hmember := h c (by rw [hrest]; simp)
      rw [hnot] at hmember
      cases hmember
  · intro h c hc
    exact h c ((List.dropWhile_suffix p).subset (List.mem_reverse.1 hc))

/-- Members at the left end do not matter. -/
theorem trimBy_append_left {p : Char → Bool} {as cs : List Char} (h : ∀ c ∈ as, p c = true) :
    trimBy p (as ++ cs) = trimBy p cs := by
  rw [trimBy, List.dropWhile_append_of_pos h, trimBy]

theorem trimRightBy_append {p : Char → Bool} {cs bs : List Char} (h : ∀ c ∈ bs, p c = true) :
    trimRightBy p (cs ++ bs) = trimRightBy p cs := by
  rw [trimRightBy, List.reverse_append,
    List.dropWhile_append_of_pos fun c hc => h c (List.mem_reverse.1 hc), trimRightBy]

/-- Members at the right end do not matter. -/
theorem trimBy_append_right {p : Char → Bool} {cs bs : List Char} (h : ∀ c ∈ bs, p c = true) :
    trimBy p (cs ++ bs) = trimBy p cs := by
  by_cases hcs : ∀ c ∈ cs, p c = true
  · rw [trimBy_append_left hcs, trimBy_eq_nil_iff.2 hcs, trimBy_eq_nil_iff.2 h]
  · rw [trimBy, List.dropWhile_append, if_neg, trimRightBy_append h, trimBy]
    rwa [List.isEmpty_iff, List.dropWhile_eq_nil_iff]

/-- Members behind a trimmed text are taken away. -/
theorem trimBy_append_of_trimmed {p : Char → Bool} {as bs : List Char} (h : Trimmed p as)
    (hbs : ∀ c ∈ bs, p c = true) : trimBy p (as ++ bs) = as := by
  rw [trimBy_append_right hbs, trimBy_of_trimmed h]

/-- The ends may be trimmed in either order. -/
theorem dropWhile_trimRightBy (p : Char → Bool) (cs : List Char) :
    (trimRightBy p cs).dropWhile p = trimBy p cs := by
  have hlast : ∀ c, ((trimRightBy p cs).dropWhile p).getLast? = some c → p c = false := by
    intro c hc
    obtain ⟨front, hfront⟩ := List.dropWhile_suffix (l := trimRightBy p cs) p
    refine @last_trimRightBy p cs c ?_
    rw [← hfront, List.getLast?_append, hc, Option.some_or]
  obtain ⟨tail, hcs, htail⟩ := exists_trimRightBy p cs
  calc (trimRightBy p cs).dropWhile p
      = trimBy p (trimRightBy p cs) := (trimRightBy_of_last hlast).symm
    _ = trimBy p (trimRightBy p cs ++ tail) := (trimBy_append_right htail).symm
    _ = trimBy p cs := by rw [← hcs]

/-- Trimming gives a trimmed text. -/
theorem trimmed_trimBy (p : Char → Bool) (cs : List Char) : Trimmed p (trimBy p cs) := by
  refine ⟨fun c hc => ?_, fun c hc => last_trimRightBy hc⟩
  rw [← dropWhile_trimRightBy] at hc
  exact head_dropWhile hc

/-- A text that begins with no member is trimmed at its right end only. -/
theorem trimBy_cons {p : Char → Bool} {c : Char} (hc : p c = false) (cs : List Char) :
    trimBy p (c :: cs) = c :: trimRightBy p cs := by
  have hlast : ∀ d, (c :: trimRightBy p cs).getLast? = some d → p d = false := by
    intro d hd
    rw [List.getLast?_cons, Option.some.injEq] at hd
    cases hrest : (trimRightBy p cs).getLast? with
    | none => rwa [← hd, hrest]
    | some e => rw [← hd, hrest]; exact last_trimRightBy hrest
  obtain ⟨tail, hcs, htail⟩ := exists_trimRightBy p cs
  calc trimBy p (c :: cs)
      = trimRightBy p (c :: cs) := by rw [trimBy, List.dropWhile_cons_of_neg (by simp [hc])]
    _ = trimRightBy p (c :: trimRightBy p cs ++ tail) := by rw [List.cons_append, ← hcs]
    _ = trimRightBy p (c :: trimRightBy p cs) := trimRightBy_append htail
    _ = c :: trimRightBy p cs := trimRightBy_of_last hlast

/-- What trimming takes away are members. -/
theorem mem_trimBy_or {p : Char → Bool} {cs : List Char} {c : Char} (h : c ∈ cs) :
    c ∈ trimBy p cs ∨ p c = true := by
  have hdrop : ∀ {l : List Char}, c ∈ l → c ∈ l.dropWhile p ∨ p c = true := by
    intro l hl
    rw [← List.takeWhile_append_dropWhile (p := p) (l := l)] at hl
    exact (List.mem_append.1 hl).symm.imp_right List.mem_takeWhile_imp
  rw [trimBy, trimRightBy, List.mem_reverse]
  rcases hdrop h with hleft | hmember
  · exact hdrop (List.mem_reverse.2 hleft)
  · exact Or.inr hmember

theorem trim_trim (s : String) : trim (trim s) = trim s := by
  rw [trim, toList_trim, trimChars, trimChars, trimBy_of_trimmed (trimmed_trimBy isSpace s.toList)]
  rfl

/-- A text is blank exactly if trimming leaves nothing of it. -/
theorem isEmpty_trim (s : String) : (trim s).isEmpty = isBlank s := by
  rw [Bool.eq_iff_iff, String.isEmpty_iff, ← String.toList_eq_nil_iff, toList_trim, trimChars,
    trimBy_eq_nil_iff, isBlank, List.all_eq_true]

/-- A trimmed text that is not empty is not blank. -/
theorem not_isBlank_of_trimmed {s : String} (h : Trimmed isSpace s.toList) (hne : s ≠ "") :
    isBlank s = false := by
  cases hs : s.toList with
  | nil => exact absurd (String.toList_eq_nil_iff.1 hs) hne
  | cons c cs =>
    have hc : isSpace c = false := h.head c (by rw [hs]; rfl)
    rw [isBlank, hs, List.all_cons, hc, Bool.false_and]

/-- Parts that are trimmed and not empty make a trimmed text, whatever separates them. -/
theorem trimmed_intercalate {p : Char → Bool} {sep : List Char} {parts : List (List Char)}
    (h : ∀ part ∈ parts, part ≠ [] ∧ Trimmed p part) :
    Trimmed p (List.intercalate sep parts) := by
  induction parts with
  | nil => exact trimmed_nil p
  | cons part parts ih =>
    obtain ⟨hne, hpart⟩ := h part List.mem_cons_self
    have hrest := ih fun other hmem => h other (List.mem_cons_of_mem part hmem)
    cases parts with
    | nil => rwa [List.intercalate_singleton]
    | cons other parts =>
      have hother : List.intercalate sep (other :: parts) ≠ [] := by
        have hne' := (h other (List.mem_cons_of_mem part List.mem_cons_self)).1
        cases parts <;> simp [hne']
      rw [List.intercalate_cons_cons, List.append_assoc]
      constructor
      · intro c hc
        cases part with
        | nil => exact absurd rfl hne
        | cons d ds => exact hpart.head c hc
      · intro c hc
        rw [← List.append_assoc, List.getLast?_append, List.getLast?_eq_some_getLast hother,
          Option.some_or] at hc
        refine hrest.last c ?_
        rw [List.getLast?_eq_some_getLast hother, hc]

end SpendingLedger.Text

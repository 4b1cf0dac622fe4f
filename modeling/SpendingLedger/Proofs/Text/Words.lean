import SpendingLedger.Proofs.Text.Trim

/-!
# Pieces and words

A text is cut at its separators into pieces, and the words of a text are its pieces between spaces
that are not empty.  A piece stands between separators or the ends of the text, the pieces joined
again by the separator are the text, and parts without separators that are joined by separators are
the pieces of the whole.

## Main results

* `runs_induction` — a text is made of runs without separators.
* `exists_of_mem_pieces` — **a piece stands between separators or the ends of the text.**
* `intercalate_pieces`, `pieces_intercalate` — cutting and joining undo each other.
* `pieces_flatMap_append` — the lines of a text are its pieces.
* `intercalate_words_iff` — the texts that are their own words with single blanks between them.
-/

namespace SpendingLedger.Text

variable {p : Char → Bool} {sep : Char} {cs w : List Char}

theorem pieces_eq_splitOnP (p : Char → Bool) (cs : List Char) : pieces p cs = cs.splitOnP p := by
  induction cs with
  | nil => rfl
  | cons c cs ih =>
    obtain ⟨w, ws, hcons⟩ := List.exists_cons_of_ne_nil (List.splitOnP_ne_nil p cs)
    rw [pieces, List.splitOnP_cons_eq_if_modifyHead, ih, hcons]
    rfl

/-- A text without separators is one piece. -/
theorem pieces_of_forall (hw : ∀ c ∈ w, p c = false) : pieces p w = [w] := by
  rw [pieces_eq_splitOnP, List.splitOnP_eq_singleton hw]

/-- The pieces begin with what stands before the first separator. -/
theorem pieces_append_cons (hw : ∀ c ∈ w, p c = false) (hsep : p sep = true) (cs : List Char) :
    pieces p (w ++ sep :: cs) = w :: pieces p cs := by
  simp only [pieces_eq_splitOnP, List.splitOnP_append_cons_of_forall_mem hw sep hsep cs]

/-- A text is a run without separators, or such a run, a separator and another text. -/
@[elab_as_elim]
theorem runs_induction {p : Char → Bool} {motive : List Char → Prop}
    (run : ∀ w, (∀ c ∈ w, p c = false) → motive w)
    (append : ∀ w sep rest, (∀ c ∈ w, p c = false) → p sep = true → motive rest →
      motive (w ++ sep :: rest)) (cs : List Char) : motive cs := by
  induction hn : cs.length using Nat.strongRecOn generalizing cs with
  | ind n ih =>
    have hcs := List.takeWhile_append_dropWhile (p := fun c => !p c) (l := cs)
    have hrun : ∀ c ∈ cs.takeWhile fun c => !p c, p c = false := fun c hc => by
      simpa using List.mem_takeWhile_imp hc
    cases hdrop : cs.dropWhile fun c => !p c with
    | nil =>
      rw [hdrop, List.append_nil] at hcs
      exact run cs (hcs ▸ hrun)
    | cons sep rest =>
      have hsep := List.head?_dropWhile_not (fun c => !p c) cs
      rw [hdrop] at hcs hsep
      rw [← hcs]
      refine append _ sep rest hrun (by simpa using hsep) (ih rest.length ?_ rest rfl)
      have hlength := congrArg List.length hcs
      simp only [List.length_append, List.length_cons] at hlength
      omega

/-- No separator stands in a piece. -/
theorem eq_false_of_mem_pieces (h : w ∈ pieces p cs) : ∀ c ∈ w, p c = false := by
  induction cs using runs_induction (p := p) with
  | run v hv =>
    rw [pieces_of_forall hv] at h
    rwa [List.mem_singleton.1 h]
  | append v sep rest hv hsep ih =>
    rw [pieces_append_cons hv hsep] at h
    rcases List.mem_cons.1 h with rfl | h
    · exact hv
    · exact ih h

/-- A piece stands between separators or the ends of the text. -/
theorem exists_of_mem_pieces (h : w ∈ pieces p cs) :
    ∃ left right, cs = left ++ w ++ right ∧ (∀ c, left.getLast? = some c → p c = true) ∧
      ∀ c, right.head? = some c → p c = true := by
  induction cs using runs_induction (p := p) with
  | run v hv =>
    rw [pieces_of_forall hv] at h
    exact ⟨[], [], by simp [List.mem_singleton.1 h], by simp, by simp⟩
  | append v sep rest hv hsep ih =>
    rw [pieces_append_cons hv hsep] at h
    rcases List.mem_cons.1 h with rfl | h
    · exact ⟨[], sep :: rest, by simp, by simp, by simpa using hsep⟩
    · obtain ⟨left, right, rfl, hleft, hright⟩ := ih h
      refine ⟨v ++ sep :: left, right, by simp, fun c hc => ?_, hright⟩
      rw [List.getLast?_append, List.getLast?_cons, Option.some_or, Option.some.injEq] at hc
      cases hlast : left.getLast? with
      | none => rwa [← hc, hlast]
      | some d => rw [← hc, hlast]; exact hleft d hlast

/-! ### Joining -/

/-- The pieces of a text that has one separator only, joined by it, are the text. -/
theorem intercalate_pieces (h : ∀ c ∈ cs, p c = true → c = sep) :
    List.intercalate [sep] (pieces p cs) = cs := by
  induction cs using runs_induction (p := p) with
  | run v hv => rw [pieces_of_forall hv, List.intercalate_singleton]
  | append v c rest hv hc ih =>
    have hrest := ih fun d hd => h d (by simp [hd])
    obtain rfl : c = sep := h c (by simp) hc
    rw [pieces_append_cons hv hc]
    obtain ⟨u, us, hcons⟩ := List.exists_cons_of_ne_nil (pieces_ne_nil p rest)
    rw [hcons] at hrest ⊢
    rw [List.intercalate_cons_cons, hrest, List.append_assoc, List.singleton_append]

/-- Parts that are joined by separators are the pieces of the whole. -/
theorem pieces_intercalate (hsep : p sep = true) {parts : List (List Char)}
    (hparts : ∀ w ∈ parts, ∀ c ∈ w, p c = false) (hne : parts ≠ []) :
    pieces p (List.intercalate [sep] parts) = parts := by
  induction parts with
  | nil => exact absurd rfl hne
  | cons w rest ih =>
    have hw := hparts w List.mem_cons_self
    cases rest with
    | nil => rw [List.intercalate_singleton, pieces_of_forall hw]
    | cons v rest =>
      have hrest := ih (fun u hu => hparts u (List.mem_cons_of_mem w hu)) (List.cons_ne_nil v rest)
      rw [List.intercalate_cons_cons, List.append_assoc, List.singleton_append,
        pieces_append_cons hw hsep, hrest]

/-- Lines without separators, each ended by one, are the pieces of a text with an empty one behind
them. -/
theorem pieces_flatMap_append (hsep : p sep = true) {lines : List (List Char)}
    (hlines : ∀ w ∈ lines, ∀ c ∈ w, p c = false) :
    pieces p (lines.flatMap (· ++ [sep])) = lines ++ [[]] := by
  induction lines with
  | nil => rfl
  | cons w rest ih =>
    have hrest := ih fun u hu => hlines u (List.mem_cons_of_mem w hu)
    rw [List.flatMap_cons, List.append_assoc, List.singleton_append,
      pieces_append_cons (hlines w List.mem_cons_self) hsep, hrest, List.cons_append]

/-- Three parts with a mark between them, in which it does not occur, are the pieces of a text. -/
theorem pieces_eq_iff {a b c : List Char} :
    pieces (· == sep) cs = [a, b, c] ↔
      cs = a ++ sep :: (b ++ sep :: c) ∧ sep ∉ a ∧ sep ∉ b ∧ sep ∉ c := by
  have hfalse : ∀ w : List Char, (∀ x ∈ w, (x == sep) = false) ↔ sep ∉ w := fun w => by
    simp only [beq_eq_false_iff_ne]
    exact ⟨fun h hmem => h sep hmem rfl, fun h x hx hsame => h (hsame ▸ hx)⟩
  constructor
  · intro h
    have hparts : ∀ w ∈ [a, b, c], sep ∉ w := fun w hw =>
      (hfalse w).1 (eq_false_of_mem_pieces (h ▸ hw))
    have hjoined : List.intercalate [sep] (pieces (· == sep) cs) = cs :=
      intercalate_pieces fun x _ => eq_of_beq
    rw [h] at hjoined
    refine ⟨?_, hparts a (by simp), hparts b (by simp), hparts c (by simp)⟩
    rw [← hjoined]
    simp [List.intercalate_cons_cons]
  · rintro ⟨rfl, ha, hb, hc⟩
    have hsep : (sep == sep) = true := beq_self_eq_true sep
    rw [pieces_append_cons ((hfalse a).2 ha) hsep,
      pieces_append_cons ((hfalse b).2 hb) hsep, pieces_of_forall ((hfalse c).2 hc)]

/-! ### Words -/

/-- No space stands in a word. -/
theorem eq_false_of_mem_words (h : w ∈ words cs) : ∀ c ∈ w, isSpace c = false :=
  eq_false_of_mem_pieces (List.mem_filter.1 h).1

/-- A word is not empty and holds no space. -/
theorem trimmed_of_mem_words (h : w ∈ words cs) : w ≠ [] ∧ Trimmed isSpace w := by
  have hnot := eq_false_of_mem_words h
  refine ⟨by simpa using (List.mem_filter.1 h).2, ?_, ?_⟩
  · exact fun c hc => hnot c (List.mem_of_mem_head? hc)
  · exact fun c hc => hnot c (List.mem_of_getLast? hc)

/-- Joining the words of a text by single blanks changes no word. -/
theorem words_intercalate_words (cs : List Char) :
    words (List.intercalate [' '] (words cs)) = words cs := by
  by_cases hnone : words cs = []
  · rw [hnone]
    rfl
  · have hspace : ∀ w ∈ words cs, ∀ c ∈ w, isSpace c = false := fun w => eq_false_of_mem_words
    have hseparator : isSpace ' ' = true := by decide
    rw [words, pieces_intercalate hseparator hspace hnone, List.filter_eq_self]
    exact fun w hw => (List.mem_filter.1 hw).2

/-- What is joined holds the characters of its parts and those between them. -/
theorem mem_intercalate {parts : List (List Char)} {c : Char}
    (h : c ∈ List.intercalate [sep] parts) : c = sep ∨ ∃ w ∈ parts, c ∈ w := by
  induction parts with
  | nil => simp at h
  | cons w rest ih =>
    cases rest with
    | nil => exact Or.inr ⟨w, List.mem_cons_self, by simpa using h⟩
    | cons v rest =>
      rw [List.intercalate_cons_cons, List.mem_append, List.mem_append, List.mem_singleton] at h
      rcases h with (h | h) | h
      · exact Or.inr ⟨w, List.mem_cons_self, h⟩
      · exact Or.inl h
      · exact (ih h).imp_right fun ⟨u, hu, hc⟩ => ⟨u, List.mem_cons_of_mem w hu, hc⟩

/-- A text is its own words with single blanks between them exactly if it has no other space, and no
space meets another one or an end. -/
theorem intercalate_words_iff :
    List.intercalate [' '] (words cs) = cs ↔
      cs = [] ∨ ((∀ c ∈ cs, isSpace c = true → c = ' ') ∧ [] ∉ pieces isSpace cs) := by
  constructor
  · intro h
    by_cases hnone : words cs = []
    · rw [hnone] at h
      exact Or.inl h.symm
    refine Or.inr ⟨fun c hc hspace => ?_, fun hempty => ?_⟩
    · rw [← h] at hc
      rcases mem_intercalate hc with rfl | ⟨w, hw, hin⟩
      · rfl
      · rw [eq_false_of_mem_words hw c hin] at hspace
        cases hspace
    · rw [← h, pieces_intercalate (by decide) (fun w => eq_false_of_mem_words) hnone] at hempty
      exact (trimmed_of_mem_words hempty).1 rfl
  · rintro (rfl | ⟨hblank, hpieces⟩)
    · rfl
    · have hall : words cs = pieces isSpace cs := by
        rw [words, List.filter_eq_self]
        intro w hw
        cases w with
        | nil => exact absurd hw hpieces
        | cons => rfl
      rw [hall, intercalate_pieces hblank]

end SpendingLedger.Text

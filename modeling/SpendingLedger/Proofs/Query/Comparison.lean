import SpendingLedger.Proofs.Text.Trim
import SpendingLedger.Query.Term

/-!
# How comparisons are read

A term without space compares a field exactly if it is made of letters, a comparator and a value.
No comparator begins with a letter, so the field is the whole run of letters at the head of the
term.  Several comparators can stand behind it, since the text of one may begin another's; as each
is tried before those whose text begins its own, the longest one that leaves a value is read.  So
what is read is what was written, unless the value continues the comparator.

## Main definitions

* `Comparison.text` — the characters that write a comparison.
* `Comparison.Splits` — the ways to cut a term into a field, a comparator and a value.
* `Comparison.IsContinued` — the comparisons whose value continues the comparator.

## Main results

* `Comparison.split?_eq_some_iff` — the comparator that is read is the longest with a value.
* `Comparison.ofText?_eq_some_iff` — a term is read as its cut with the longest comparator.
* `evalTerm_split` — **terms are cut in one way, and what has no cut is a bare word.**
-/

namespace SpendingLedger.Query

open Text (isSpace)

/-! ### Comparators at the head of a text -/

namespace Comparator

/-- The comparators that a sign of equality continues to another one. -/
def IsShort (op : Comparator) : Prop := op = .less ∨ op = .greater

theorem IsShort.exists_continued {op : Comparator} (h : op.IsShort) :
    ∃ op' : Comparator, op'.text.toList = op.text.toList ++ ['='] := by
  rcases h with rfl | rfl
  · exact ⟨.atMost, rfl⟩
  · exact ⟨.atLeast, rfl⟩

/-- A comparator begins another one only if a sign of equality continues it. -/
theorem eq_or_of_isPrefix {op op' : Comparator} (h : op.text.toList <+: op'.text.toList) :
    op = op' ∨ (op.IsShort ∧ op'.text.toList = op.text.toList ++ ['=']) := by
  unfold IsShort
  rw [← List.isPrefixOf_iff_prefix] at h
  revert h
  cases op <;> cases op' <;> decide

theorem eq_of_isPrefix {op op' : Comparator} (h : op.text.toList <+: op'.text.toList)
    (h' : op'.text.toList <+: op.text.toList) : op = op' := by
  rcases eq_or_of_isPrefix h with hsame | ⟨-, hlonger⟩
  · exact hsame
  · have hle := h'.length_le
    rw [hlonger, List.length_append] at hle
    exact absurd hle (by simp)

/-- A comparator is tried before those whose text begins its own. -/
theorem pairwise_all : all.Pairwise fun op op' => ¬op.text.toList <+: op'.text.toList := by
  decide

/-- No comparator begins with a letter. -/
theorem exists_text_eq_cons (op : Comparator) :
    ∃ c cs, op.text.toList = c :: cs ∧ Comparison.isFieldChar c = false := by
  cases op <;> exact ⟨_, _, rfl, by decide⟩

theorem isSpace_of_mem_text (op : Comparator) : ∀ x ∈ op.text.toList, isSpace x = false := by
  have hall : (op.text.toList.all fun x => !isSpace x) = true := by
    cases op <;> decide
  simpa using hall

end Comparator

namespace Comparison

/-- Whether a text is a comparator with something behind it. -/
def Leaves (op : Comparator) (value rest : List Char) : Prop :=
  rest = op.text.toList ++ value ∧ value ≠ []

variable {rest value : List Char} {op : Comparator}

/-- Without space the value is everything behind the comparator. -/
theorem valueOf?_eq_some_iff (hspace : ∀ c ∈ rest, isSpace c = false) :
    valueOf? rest = some value ↔ value = rest ∧ rest ≠ [] := by
  have hline : '\n' ∉ rest := by
    intro hmem
    have := hspace '\n' hmem
    revert this
    decide
  have hdrop : rest.dropWhile isSpace = rest :=
    Text.dropWhile_of_head fun c hc => hspace c (List.mem_of_mem_head? hc)
  have hlast : dropLastLineFeed rest = rest := by
    unfold dropLastLineFeed
    rw [if_neg]
    intro h
    exact hline (List.mem_of_getLast? h)
  unfold valueOf?
  simp only [hdrop, hlast, List.contains_iff_mem, hline, Bool.or_eq_true, List.isEmpty_iff,
    or_false]
  by_cases hempty : rest = []
  · simp [hempty]
  · simp [hempty, eq_comm]

theorem valueAfter?_eq_some_iff (hspace : ∀ c ∈ rest, isSpace c = false) :
    valueAfter? op rest = some value ↔ Leaves op value rest := by
  unfold valueAfter? Leaves
  split
  · next hprefix =>
    obtain ⟨tail, rfl⟩ := List.isPrefixOf_iff_prefix.1 hprefix
    rw [List.drop_left, valueOf?_eq_some_iff fun c hc => hspace c (List.mem_append_right _ hc),
      List.append_cancel_left_eq]
    constructor
    · rintro ⟨rfl, hne⟩
      exact ⟨rfl, hne⟩
    · rintro ⟨rfl, hne⟩
      exact ⟨rfl, hne⟩
  · next hprefix =>
    refine iff_of_false (by simp) ?_
    rintro ⟨rfl, -⟩
    exact hprefix (by simp [List.isPrefixOf_iff_prefix])

/-- Of two comparators at the head of one text the shorter one begins the other. -/
theorem isPrefix_of_length_le {op' : Comparator} {value' : List Char}
    (h : Leaves op value rest) (h' : Leaves op' value' rest)
    (hle : op.text.length ≤ op'.text.length) : op.text.toList <+: op'.text.toList := by
  have hhead : op.text.toList <+: rest := ⟨value, h.1.symm⟩
  have hhead' : op'.text.toList <+: rest := ⟨value', h'.1.symm⟩
  rw [← String.length_toList, ← String.length_toList] at hle
  exact List.prefix_of_prefix_length_le hhead hhead' hle

/-- Where a comparator has a value behind it, one is read. -/
theorem exists_split?_of_leaves (hspace : ∀ c ∈ rest, isSpace c = false)
    (h : Leaves op value rest) : ∃ found, split? rest = some found := by
  cases hsplit : split? rest with
  | some found => exact ⟨found, rfl⟩
  | none =>
    have hmiss := List.findSome?_eq_none_iff.1 hsplit op (Comparator.mem_all op)
    rw [(valueAfter?_eq_some_iff hspace).2 h] at hmiss
    cases hmiss

/-- The comparator that is read is the longest one with a value behind it. -/
theorem split?_eq_some_iff (hspace : ∀ c ∈ rest, isSpace c = false) :
    split? rest = some (op, value) ↔
      Leaves op value rest ∧
        ∀ op' value', Leaves op' value' rest → op'.text.length ≤ op.text.length := by
  have hfirst : ∀ {op value}, split? rest = some (op, value) → Leaves op value rest ∧
      ∀ op' value', Leaves op' value' rest → op'.text.length ≤ op.text.length := by
    intro op value h
    obtain ⟨before, op₀, after, hall, hfound, hnone⟩ := List.findSome?_eq_some_iff.1 h
    obtain ⟨value₀, hvalue, heq⟩ := Option.map_eq_some_iff.1 hfound
    cases heq
    have hleaves := (valueAfter?_eq_some_iff hspace).1 hvalue
    refine ⟨hleaves, fun op' value' h' => ?_⟩
    by_contra hlonger
    have hprefix := isPrefix_of_length_le hleaves h' (Nat.le_of_not_le hlonger)
    -- a longer one would have been tried before
    have hmem : op' ∈ before ++ op :: after := hall ▸ Comparator.mem_all op'
    rcases List.mem_append.1 hmem with hbefore | hafter
    · have hmiss := hnone op' hbefore
      rw [(valueAfter?_eq_some_iff hspace).2 h'] at hmiss
      cases hmiss
    rcases List.mem_cons.1 hafter with rfl | hafter
    · exact hlonger (Nat.le_refl _)
    · have hpairs := Comparator.pairwise_all
      rw [hall] at hpairs
      exact (List.pairwise_cons.1 (List.pairwise_append.1 hpairs).2.1).1 op' hafter hprefix
  refine ⟨hfirst, fun ⟨hleaves, hlongest⟩ => ?_⟩
  obtain ⟨⟨op', value'⟩, hsplit⟩ := exists_split?_of_leaves hspace hleaves
  obtain ⟨hleaves', hlongest'⟩ := hfirst hsplit
  -- two longest ones are one
  have hshorter := isPrefix_of_length_le hleaves hleaves' (hlongest' _ _ hleaves)
  have hlonger := isPrefix_of_length_le hleaves' hleaves (hlongest _ _ hleaves')
  obtain rfl : op = op' := Comparator.eq_of_isPrefix hshorter hlonger
  have hvalue : op.text.toList ++ value = op.text.toList ++ value' :=
    hleaves.1.symm.trans hleaves'.1
  rw [hsplit, List.append_cancel_left hvalue]

/-! ### Terms -/

/-- The characters that write a comparison. -/
def text (c : Comparison) : String := c.field ++ c.comparator.text ++ c.value

/-- Whether `c` is a way to cut `term` into letters, a comparator and a value. -/
structure Splits (c : Comparison) (term : String) : Prop where
  field_ne : c.field ≠ ""
  field_letters : ∀ x ∈ c.field.toList, isFieldChar x = true
  value_ne : c.value ≠ ""
  text_eq : c.text = term

/-- Whether the value of a comparison continues its comparator to another one, and is longer than
what it adds to it. -/
def IsContinued (c : Comparison) : Prop :=
  c.comparator.IsShort ∧ ∃ x rest, c.value.toList = '=' :: x :: rest

variable {c c' : Comparison} {term : String}

/-- The field of a cut is the whole run of letters at the head. -/
theorem splits_iff :
    c.Splits term ↔
      c.field ≠ "" ∧ c.field.toList = term.toList.takeWhile isFieldChar ∧
        Leaves c.comparator c.value.toList (term.toList.dropWhile isFieldChar) := by
  obtain ⟨x, xs, hop, hx⟩ := c.comparator.exists_text_eq_cons
  constructor
  · rintro ⟨hfield, hletters, hvalue, rfl⟩
    have hterm : c.text.toList =
        c.field.toList ++ (c.comparator.text.toList ++ c.value.toList) := by
      simp [text]
    rw [hterm, List.takeWhile_append_of_pos hletters, List.dropWhile_append_of_pos hletters, hop,
      List.cons_append, List.takeWhile_cons_of_neg (by simp [hx]),
      List.dropWhile_cons_of_neg (by simp [hx])]
    exact ⟨hfield, by simp, by rw [hop]; rfl, by simpa using hvalue⟩
  · rintro ⟨hfield, htake, hrest, hvalue⟩
    refine ⟨hfield, ?_, by simpa using hvalue, ?_⟩
    · rw [htake]
      exact fun y hy => List.mem_takeWhile_imp hy
    · rw [← String.toList_inj]
      have hterm := List.takeWhile_append_dropWhile (p := isFieldChar) (l := term.toList)
      rw [← htake, hrest] at hterm
      simpa [text] using hterm

theorem Splits.field_eq (h : c.Splits term) (h' : c'.Splits term) : c'.field = c.field := by
  rw [← String.toList_inj, (splits_iff.1 h).2.1, (splits_iff.1 h').2.1]

/-- A term without space is read as the letters at its head and what is read behind them. -/
theorem ofText?_eq_some (hspace : ∀ x ∈ term.toList.dropWhile isFieldChar, isSpace x = false) :
    ofText? term = some c ↔
      c.field ≠ "" ∧ c.field.toList = term.toList.takeWhile isFieldChar ∧
        split? (term.toList.dropWhile isFieldChar) = some (c.comparator, c.value.toList) := by
  obtain ⟨field, op, value⟩ := c
  unfold ofText? ofChars?
  dsimp only
  rw [Text.dropWhile_of_head fun x hx => hspace x (List.mem_of_mem_head? hx)]
  split
  · next hempty =>
    rw [List.isEmpty_iff] at hempty
    refine iff_of_false (by simp) ?_
    rintro ⟨hfield, htake, -⟩
    rw [hempty] at htake
    exact hfield (String.toList_eq_nil_iff.1 htake)
  · next hempty =>
    rw [List.isEmpty_iff] at hempty
    rw [Option.map_eq_some_iff]
    constructor
    · rintro ⟨⟨op', value'⟩, hsplit, heq⟩
      cases heq
      exact ⟨by simpa using hempty, by simp, by simpa using hsplit⟩
    · rintro ⟨-, htake, hsplit⟩
      exact ⟨_, hsplit, by simp [← htake]⟩

theorem isSpace_of_mem_dropWhile (hspace : ∀ x ∈ term.toList, isSpace x = false) :
    ∀ x ∈ term.toList.dropWhile isFieldChar, isSpace x = false :=
  fun x hx => hspace x ((List.dropWhile_suffix _).subset hx)

/-- A term without space is read as its cut with the longest comparator. -/
theorem ofText?_eq_some_iff (hspace : ∀ x ∈ term.toList, isSpace x = false) :
    ofText? term = some c ↔
      c.Splits term ∧ ∀ c' : Comparison, c'.Splits term →
        c'.comparator.text.length ≤ c.comparator.text.length := by
  have hrest := isSpace_of_mem_dropWhile hspace
  rw [ofText?_eq_some hrest, split?_eq_some_iff hrest, splits_iff]
  constructor
  · rintro ⟨hfield, htake, hleaves, hlongest⟩
    exact ⟨⟨hfield, htake, hleaves⟩, fun c' h' => hlongest _ _ (splits_iff.1 h').2.2⟩
  · rintro ⟨⟨hfield, htake, hleaves⟩, hlongest⟩
    refine ⟨hfield, htake, hleaves, fun op' value' h' => ?_⟩
    refine hlongest ⟨c.field, op', String.ofList value'⟩ (splits_iff.2 ⟨hfield, htake, ?_⟩)
    simpa using h'

/-- A term without space that can be cut is read. -/
theorem Splits.exists_ofText? (hspace : ∀ x ∈ term.toList, isSpace x = false)
    (h : c.Splits term) : ∃ c', ofText? term = some c' := by
  have hrest := isSpace_of_mem_dropWhile hspace
  obtain ⟨hfield, htake, hleaves⟩ := splits_iff.1 h
  obtain ⟨⟨op, value⟩, hsplit⟩ := exists_split?_of_leaves hrest hleaves
  refine ⟨⟨c.field, op, String.ofList value⟩, (ofText?_eq_some hrest).2 ?_⟩
  exact ⟨hfield, htake, by simpa using hsplit⟩

/-- A comparison is read back from its text unless its value continues its comparator. -/
theorem Splits.ofText?_iff (hspace : ∀ x ∈ term.toList, isSpace x = false) (h : c.Splits term) :
    ofText? term = some c ↔ ¬c.IsContinued := by
  have hleaves := (splits_iff.1 h).2.2
  constructor
  · rintro hread ⟨hshort, x, rest, hvalue⟩
    -- the sign of equality could belong to the comparator as well
    obtain ⟨op', hop'⟩ := hshort.exists_continued
    have hsplits : (⟨c.field, op', String.ofList (x :: rest)⟩ : Comparison).Splits term := by
      refine splits_iff.2 ⟨h.field_ne, (splits_iff.1 h).2.1, ?_, by simp⟩
      rw [hleaves.1, hop', hvalue]
      simp
    have hle := ((ofText?_eq_some_iff hspace).1 hread).2 _ hsplits
    rw [← String.length_toList, ← String.length_toList, hop', List.length_append] at hle
    exact absurd hle (by simp)
  · intro hplain
    obtain ⟨c', hread⟩ := h.exists_ofText? hspace
    obtain ⟨h', hlongest⟩ := (ofText?_eq_some_iff hspace).1 hread
    have hleaves' := (splits_iff.1 h').2.2
    have hrest : c.comparator.text.toList ++ c.value.toList =
        c'.comparator.text.toList ++ c'.value.toList := hleaves.1.symm.trans hleaves'.1
    have hprefix := isPrefix_of_length_le hleaves hleaves' (hlongest _ h)
    rcases Comparator.eq_or_of_isPrefix hprefix with hop | ⟨hshort, hop⟩
    · rw [hop] at hrest
      have hvalue := String.toList_inj.1 (List.append_cancel_left hrest)
      have hfield : c.field = c'.field := h'.field_eq h
      obtain rfl : c = c' := by
        cases c
        cases c'
        rw [Comparison.mk.injEq]
        exact ⟨hfield, hop, hvalue⟩
      exact hread
    · rw [hop, List.append_assoc] at hrest
      obtain ⟨x, rest, hvalue⟩ := List.exists_cons_of_ne_nil hleaves'.2
      refine absurd ⟨hshort, x, rest, ?_⟩ hplain
      rw [List.append_cancel_left hrest, hvalue]
      rfl

example : ofText? "amount>=20" = some ⟨"amount", .atLeast, "20"⟩ := by decide +kernel

theorem isSpace_of_isFieldChar {x : Char} (h : isFieldChar x = true) : isSpace x = false := by
  have hrange : 65 ≤ x.toNat ∧ x.toNat ≤ 122 := by
    rcases Bool.or_eq_true_iff.1 h with hupper | hlower
    · obtain ⟨hfirst, hlast⟩ : 'A'.val ≤ x.val ∧ x.val ≤ 'Z'.val := of_decide_eq_true hupper
      have hle : x.toNat ≤ 90 := UInt32.le_iff_toNat_le.1 hlast
      exact ⟨UInt32.le_iff_toNat_le.1 hfirst, by omega⟩
    · obtain ⟨hfirst, hlast⟩ := Bool.and_eq_true_iff.1 hlower
      have hge : 97 ≤ x.toNat := UInt32.le_iff_toNat_le.1 (of_decide_eq_true hfirst)
      exact ⟨by omega, UInt32.le_iff_toNat_le.1 (of_decide_eq_true hlast)⟩
  unfold isSpace Text.isWhite
  simp only [Bool.or_eq_false_iff, Bool.and_eq_false_iff, decide_eq_false_iff_not]
  omega

/-- No space stands in what writes a comparison if none stands in its value. -/
theorem isSpace_of_mem_text (hletters : ∀ x ∈ c.field.toList, isFieldChar x = true)
    (hvalue : ∀ x ∈ c.value.toList, isSpace x = false) :
    ∀ x ∈ c.text.toList, isSpace x = false := by
  intro x hx
  rw [text, String.toList_append, String.toList_append, List.mem_append, List.mem_append] at hx
  rcases hx with (hx | hx) | hx
  · exact isSpace_of_isFieldChar (hletters x hx)
  · exact c.comparator.isSpace_of_mem_text x hx
  · exact hvalue x hx

/-- The value of a cut has no space to be trimmed. -/
theorem Splits.trim_value (hspace : ∀ x ∈ term.toList, isSpace x = false) (h : c.Splits term) :
    Text.trim c.value = c.value := by
  have hvalue : ∀ x ∈ c.value.toList, isSpace x = false := by
    intro x hx
    refine hspace x ?_
    rw [← h.text_eq]
    simp [text, hx]
  rw [← String.toList_inj, Text.toList_trim]
  refine Text.trimBy_of_trimmed ⟨fun x hx => ?_, fun x hx => ?_⟩
  · exact hvalue x (List.mem_of_mem_head? hx)
  · exact hvalue x (List.mem_of_getLast? hx)

end Comparison

open Comparison (isFieldChar ofText? Splits IsContinued)

/-- **Terms are cut in one way.**  A term without space is taken for a comparison exactly if it can
be cut into letters, a comparator and a value.  What is evaluated is then such a cut, whose field is
the longest run of letters and whose comparator is the longest of all; each cut is the one that is
read, unless its value continues its comparator.  A term that cannot be cut is a bare word. -/
theorem evalTerm_split {term : String} (hspace : ∀ x ∈ term.toList, isSpace x = false)
    (today : Date) (t : Transaction) :
    ((∃ c, ofText? term = some c) ↔ ∃ c : Comparison, c.Splits term) ∧
      (∀ c, ofText? term = some c →
        evalTerm today term t = c.eval today t ∧ Text.trim c.value = c.value ∧ c.Splits term ∧
          c.field.toList = term.toList.takeWhile isFieldChar ∧
          ∀ c' : Comparison, c'.Splits term →
            c'.comparator.text.length ≤ c.comparator.text.length) ∧
      (∀ c : Comparison, c.Splits term → (ofText? term = some c ↔ ¬c.IsContinued)) ∧
      ((¬∃ c : Comparison, c.Splits term) →
        evalTerm today term t = .ok (mentions term t.descriptionText)) := by
  have hcut : (∃ c, ofText? term = some c) ↔ ∃ c : Comparison, c.Splits term := by
    constructor
    · rintro ⟨c, hread⟩
      exact ⟨c, ((Comparison.ofText?_eq_some_iff hspace).1 hread).1⟩
    · rintro ⟨c, h⟩
      exact h.exists_ofText? hspace
  refine ⟨hcut, ?_, fun c h => h.ofText?_iff hspace, ?_⟩
  · intro c hread
    obtain ⟨h, hlongest⟩ := (Comparison.ofText?_eq_some_iff hspace).1 hread
    refine ⟨?_, h.trim_value hspace, h, (Comparison.splits_iff.1 h).2.1, hlongest⟩
    unfold evalTerm
    rw [hread]
  · intro hnone
    unfold evalTerm
    cases hread : ofText? term with
    | none => rfl
    | some c => exact absurd (hcut.1 ⟨c, hread⟩) hnone

/-- The comparator gives up its second character where no value would remain: the value is then a
sign of equality, which is no number. -/
theorem evalTerm_split_given_up :
    (∀ x ∈ "amount<=".toList, isSpace x = false) ∧
      ofText? "amount<=" = some ⟨"amount", .less, "="⟩ ∧
      ∃ (today : Date) (t : Transaction),
        evalTerm today "amount<=" t = .error (.notANumber "=") := by
  have hspace : ∀ x ∈ "amount<=".toList, isSpace x = false := by
    simp [isSpace, Text.isWhite]
  have hsplits : (⟨"amount", .less, "="⟩ : Comparison).Splits "amount<=" :=
    ⟨by decide, List.all_eq_true.1 (by decide), by decide, by decide⟩
  have hplain : ¬(⟨"amount", .less, "="⟩ : Comparison).IsContinued := by
    rintro ⟨-, x, rest, hvalue⟩
    simp at hvalue
  have hlaws := evalTerm_split hspace ⟨2025, 7, 31, by decide⟩
    { id := "1", date := "2025-01-31", description := none, amount := .zero }
  have hread := (hlaws.2.2.1 _ hsplits).2 hplain
  have heval := (hlaws.2.1 _ hread).1
  exact ⟨hspace, hread, _, _, heval.trans (by rfl)⟩

end SpendingLedger.Query

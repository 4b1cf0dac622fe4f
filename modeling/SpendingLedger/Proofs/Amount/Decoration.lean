import Mathlib.Logic.Function.Iterate
import SpendingLedger.Proofs.Amount.Finite
import SpendingLedger.Proofs.Text.Trim

/-!
# Decorated amounts

Decorations are taken off a text in passes.  One pass looks for a sign, then for a dollar sign and
then for parentheses, and takes off those that it finds, so that a decoration that is put around a
text shifts all others against the passes.  It does not matter: what is left in the end is what is
left of one decoration after the other.  An amount may therefore be decorated in any order and to
any depth, and it is negative as soon as one decoration makes it so.

## Main definitions

* `Amount.sweep` — one pass over a text.
* `Amount.Decoration`, `Amount.decorate` — a decoration, and a nesting of decorations around a text.

## Main results

* `Amount.exists_sweeps` — the passes come to an end, and what they leave.
* `Amount.parse_decorate_iff` — **a nesting of decorations around a text is an amount exactly if the
  text is one**, and which.
* `Amount.decoration_laws` — the passes, the laws of one decoration, and those of a nesting.
-/

namespace SpendingLedger.Amount

/-! ### The passes over a text -/

/-- The text without a sign at its head; whether it is negative is noted. -/
def dropSign : Bool × List Char → Bool × List Char
  | (negative, '+' :: cs) => (negative, cs.dropWhile Text.isSpace)
  | (_, '-' :: cs) => (true, cs.dropWhile Text.isSpace)
  | s => s

/-- The text without a dollar sign at its head. -/
def dropDollar : Bool × List Char → Bool × List Char
  | (negative, '$' :: cs) => (negative, cs.dropWhile Text.isSpace)
  | s => s

/-- The text without a pair of parentheses around it, which makes it negative. -/
def dropParentheses : Bool × List Char → Bool × List Char
  | (negative, '(' :: cs) =>
    if cs.getLast? = some ')' then (true, Text.trimChars cs.dropLast) else (negative, '(' :: cs)
  | s => s

/-- One pass over a text: a sign, a dollar sign and parentheses are taken off in this order. -/
def sweep (s : Bool × List Char) : Bool × List Char := dropParentheses (dropDollar (dropSign s))

/-- What is left of `s` without any decoration. -/
def stripped (s : Bool × List Char) : Bool × List Char :=
  (s.1 || (undecorate s.2).1, (undecorate s.2).2)

/-- The outermost decoration is taken off, or nothing. -/
inductive Peels : Bool × List Char → Bool × List Char → Prop
  | keep (s : Bool × List Char) : Peels s s
  | peel (negative : Bool) {cs rest : List Char} {negates : Bool}
      (h : peel? cs = some (negates, rest)) : Peels (negative, cs) (negative || negates, rest)

namespace Peels

variable {s t : Bool × List Char}

theorem stripped_eq (h : Peels s t) : stripped t = stripped s := by
  cases h with
  | keep => rfl
  | peel negative h =>
    rw [stripped, stripped, undecorate_of_peel?_eq_some h, Bool.or_assoc]

theorem length_le (h : Peels s t) : t.2.length ≤ s.2.length := by
  cases h with
  | keep => exact Nat.le_refl _
  | peel negative h => exact Nat.le_of_lt (length_lt_of_peel? h)

theorem eq_or_length_lt (h : Peels s t) : t = s ∨ t.2.length < s.2.length := by
  cases h with
  | keep => exact Or.inl rfl
  | peel negative h => exact Or.inr (length_lt_of_peel? h)

end Peels

theorem peels_dropSign (s : Bool × List Char) : Peels s (dropSign s) := by
  unfold dropSign
  split
  · next negative cs =>
    have hpeel : peel? ('+' :: cs) = some (false, cs.dropWhile Text.isSpace) := rfl
    simpa using Peels.peel negative hpeel
  · next negative cs =>
    have hpeel : peel? ('-' :: cs) = some (true, cs.dropWhile Text.isSpace) := rfl
    simpa using Peels.peel negative hpeel
  · exact .keep _

theorem peels_dropDollar (s : Bool × List Char) : Peels s (dropDollar s) := by
  unfold dropDollar
  split
  · next negative cs =>
    have hpeel : peel? ('$' :: cs) = some (false, cs.dropWhile Text.isSpace) := rfl
    simpa using Peels.peel negative hpeel
  · exact .keep _

theorem peels_dropParentheses (s : Bool × List Char) : Peels s (dropParentheses s) := by
  unfold dropParentheses
  split
  · next negative cs =>
    split
    · next hclose =>
      have hpeel : peel? ('(' :: cs) = some (true, Text.trimChars cs.dropLast) := if_pos hclose
      simpa using Peels.peel negative hpeel
    · exact .keep _
  · exact .keep _

/-- Where a decoration stands, one of the three parts of a pass takes it off. -/
theorem length_lt_of_peel?_isSome {s : Bool × List Char} (h : (peel? s.2).isSome = true) :
    (dropSign s).2.length < s.2.length ∨ (dropDollar s).2.length < s.2.length ∨
      (dropParentheses s).2.length < s.2.length := by
  obtain ⟨negative, cs⟩ := s
  have hdrop := fun cs => Nat.lt_succ_of_le (Text.length_dropWhile_le Text.isSpace cs)
  unfold peel? at h
  split at h
  · next heq => obtain rfl : cs = _ := heq; exact Or.inl (hdrop _)
  · next heq => obtain rfl : cs = _ := heq; exact Or.inl (hdrop _)
  · next heq => obtain rfl : cs = _ := heq; exact Or.inr (Or.inl (hdrop _))
  · next rest heq =>
    obtain rfl : cs = _ := heq
    split at h
    · next hclose =>
      have hpeel : peel? ('(' :: rest) = some (true, Text.trimChars rest.dropLast) := if_pos hclose
      refine Or.inr (Or.inr ?_)
      rw [dropParentheses, if_pos hclose]
      exact length_lt_of_peel? hpeel
    · cases h
  · cases h

/-- A pass makes a text shorter as long as a decoration is left, and then it changes nothing. -/
theorem sweep_cases (s : Bool × List Char) :
    (sweep s).2.length < s.2.length ∨ (peel? s.2 = none ∧ sweep s = s) := by
  have hdollar := peels_dropDollar (dropSign s)
  have hparentheses := peels_dropParentheses (dropDollar (dropSign s))
  rcases (peels_dropSign s).eq_or_length_lt with hsign | hshorter
  · rcases hdollar.eq_or_length_lt with hkept | hshorter
    · rw [hsign] at hkept
      rw [hsign, hkept] at hparentheses
      rcases hparentheses.eq_or_length_lt with hsame | hshorter
      · refine Or.inr ⟨?_, by rw [sweep, hsign, hkept, hsame]⟩
        by_contra hsome
        have hlt := length_lt_of_peel?_isSome (Option.isSome_iff_ne_none.2 hsome)
        rw [hsign, hkept, hsame] at hlt
        omega
      · exact Or.inl (by rwa [sweep, hsign, hkept])
    · refine Or.inl (Nat.lt_of_le_of_lt hparentheses.length_le ?_)
      rwa [hsign] at hshorter ⊢
  · exact Or.inl (Nat.lt_of_le_of_lt (hparentheses.length_le.trans hdollar.length_le) hshorter)

theorem stripped_sweep (s : Bool × List Char) : stripped (sweep s) = stripped s := by
  rw [sweep, (peels_dropParentheses _).stripped_eq, (peels_dropDollar _).stripped_eq,
    (peels_dropSign _).stripped_eq]

theorem stripped_of_peel?_eq_none {s : Bool × List Char} (h : peel? s.2 = none) :
    stripped s = s := by
  rw [stripped, undecorate_of_peel?_eq_none h, Bool.or_false]

/-- The passes over a text come to an end.  Each but the last one makes the text shorter, and the
last one finds nothing left to take off. -/
theorem exists_sweeps (s : Bool × List Char) :
    ∃ n ≤ s.2.length, sweep^[n] s = stripped s ∧ sweep (stripped s) = stripped s ∧
      ∀ m < n, (sweep^[m + 1] s).2.length < (sweep^[m] s).2.length := by
  -- the number of passes is found from the first one on, by the length of what it leaves
  induction hsize : s.2.length using Nat.strong_induction_on generalizing s with
  | _ size ih =>
    subst hsize
    rcases sweep_cases s with hshorter | ⟨hnone, hsame⟩
    · obtain ⟨n, hn, hend, hlast, heach⟩ := ih _ hshorter (sweep s) rfl
      rw [stripped_sweep] at hend hlast
      refine ⟨n + 1, by omega, hend, hlast, fun m hm => ?_⟩
      cases m with
      | zero => exact hshorter
      | succ m => exact heach m (by omega)
    · rw [stripped_of_peel?_eq_none hnone]
      exact ⟨0, Nat.zero_le _, rfl, hsame, fun m hm => absurd hm (Nat.not_lt_zero m)⟩

/-! ### Under a decoration -/

/-- A text that begins with no space and from which a decoration is taken off. -/
theorem undecorate_trimChars_cons {c : Char} {cs : List Char} {negates : Bool}
    (hspace : Text.isSpace c = false)
    (hpeel : ∀ rest, peel? (c :: rest) = some (negates, rest.dropWhile Text.isSpace)) :
    undecorate (Text.trimChars (c :: cs)) =
      (negates || (undecorate (Text.trimChars cs)).1, (undecorate (Text.trimChars cs)).2) := by
  rw [Text.trimChars, Text.trimBy_cons hspace, undecorate_of_peel?_eq_some (hpeel _),
    Text.dropWhile_trimRightBy]
  rfl

theorem undecorate_trimChars_parentheses (cs : List Char) :
    undecorate (Text.trimChars ('(' :: (cs ++ [')']))) =
      (true, (undecorate (Text.trimChars cs)).2) := by
  have htrimmed : Text.Trimmed Text.isSpace ('(' :: (cs ++ [')'])) := by
    constructor
    · intro c hc
      obtain rfl : '(' = c := Option.some.inj hc
      rfl
    · intro c hc
      rw [← List.cons_append, List.getLast?_concat] at hc
      obtain rfl : ')' = c := Option.some.inj hc
      rfl
  have hpeel : peel? ('(' :: (cs ++ [')'])) = some (true, Text.trimChars cs) := by
    rw [peel?, if_pos List.getLast?_concat, List.dropLast_concat]
  rw [Text.trimChars, Text.trimBy_of_trimmed htrimmed, undecorate_of_peel?_eq_some hpeel,
    Bool.true_or]

theorem trimChars_space {before after : String} (hbefore : Text.isBlank before = true)
    (hafter : Text.isBlank after = true) (cs : List Char) :
    Text.trimChars (before.toList ++ cs ++ after.toList) = Text.trimChars cs := by
  rw [Text.isBlank, List.all_eq_true] at hbefore hafter
  rw [Text.trimChars, Text.trimBy_append_right hafter, Text.trimBy_append_left hbefore,
    Text.trimChars]

/-! ### One decoration -/

/-- What may stand around an amount. -/
inductive Decoration
  | plus
  | minus
  | dollar
  | parentheses
  /-- Space at either end. -/
  | space (before after : { s : String // Text.isBlank s = true })

namespace Decoration

/-- The decorated text. -/
def apply : Decoration → String → String
  | plus, raw => "+" ++ raw
  | minus, raw => "-" ++ raw
  | dollar, raw => "$" ++ raw
  | parentheses, raw => "(" ++ raw ++ ")"
  | space before after, raw => before.1 ++ raw ++ after.1

/-- Whether an amount becomes negative. -/
def negates : Decoration → Bool
  | minus | parentheses => true
  | _ => false

/-- The decorated amount. -/
def value (d : Decoration) (x : Binary64) : Binary64 := if d.negates then x.abs.neg else x

/-- Under a decoration stands what stood there without it. -/
theorem undecorate_apply (d : Decoration) (raw : String) :
    undecorate (Text.trimChars (d.apply raw).toList) =
      (d.negates || (undecorate (Text.trimChars raw.toList)).1,
        (undecorate (Text.trimChars raw.toList)).2) := by
  cases d with
  | plus =>
    have hchars : (apply plus raw).toList = '+' :: raw.toList := by simp [apply]
    rw [hchars]
    exact undecorate_trimChars_cons (by decide) fun _ => rfl
  | minus =>
    have hchars : (apply minus raw).toList = '-' :: raw.toList := by simp [apply]
    rw [hchars]
    exact undecorate_trimChars_cons (by decide) fun _ => rfl
  | dollar =>
    have hchars : (apply dollar raw).toList = '$' :: raw.toList := by simp [apply]
    rw [hchars]
    exact undecorate_trimChars_cons (by decide) fun _ => rfl
  | parentheses =>
    have hchars : (apply parentheses raw).toList = '(' :: (raw.toList ++ [')']) := by
      simp [apply]
    rw [hchars, undecorate_trimChars_parentheses]
    rfl
  | space before after =>
    rw [apply, String.toList_append, String.toList_append, trimChars_space before.2 after.2]
    rfl

theorem writes_apply_iff {d : Decoration} {raw : String} {x : Numeral} :
    Writes (d.apply raw) x ↔ Writes raw x := by
  rw [Writes, undecorate_apply]
  rfl

theorem isNegated_apply (d : Decoration) (raw : String) :
    isNegated (d.apply raw) = (d.negates || isNegated raw) := by
  rw [isNegated, undecorate_apply]
  rfl

theorem value_ite (d : Decoration) (negated : Bool) (x : Binary64) :
    d.value (if negated then x.abs.neg else x) =
      if d.negates || negated then x.abs.neg else x := by
  unfold value
  cases d.negates <;> cases negated <;> simp

/-- A decorated text is an amount exactly if the text is one. -/
theorem parse_apply_iff {d : Decoration} {raw : String} {y : Binary64} :
    parse (d.apply raw) = .ok y ↔ ∃ x, parse raw = .ok x ∧ y = d.value x := by
  simp only [parse_eq_ok_iff, writes_apply_iff, isNegated_apply]
  constructor
  · rintro ⟨x, hx, rfl⟩
    exact ⟨_, ⟨x, hx, rfl⟩, (value_ite d _ x.toBinary64).symm⟩
  · rintro ⟨_, ⟨x, hx, rfl⟩, rfl⟩
    exact ⟨x, hx, value_ite d _ x.toBinary64⟩

end Decoration

/-! ### Nestings -/

/-- `raw` in a nesting of decorations, the outermost one first. -/
def decorate (ds : List Decoration) (raw : String) : String := ds.foldr Decoration.apply raw

/-- A nesting of decorations around a text is an amount exactly if the text is one. -/
theorem parse_decorate_iff {ds : List Decoration} {raw : String} {y : Binary64} :
    parse (decorate ds raw) = .ok y ↔
      ∃ x, parse raw = .ok x ∧ y = if ds.any Decoration.negates then x.abs.neg else x := by
  induction ds generalizing y with
  | nil => simp [decorate]
  | cons d ds ih =>
    rw [decorate, List.foldr_cons, Decoration.parse_apply_iff, List.any_cons]
    constructor
    · rintro ⟨z, hz, rfl⟩
      obtain ⟨x, hx, rfl⟩ := ih.1 hz
      exact ⟨x, hx, d.value_ite _ x⟩
    · rintro ⟨x, hx, rfl⟩
      exact ⟨_, ih.2 ⟨x, hx, rfl⟩, (d.value_ite _ x).symm⟩

/-! ### Signs -/

/-- A decorated amount has a minus sign exactly if a decoration makes it negative or it has one
already. -/
theorem isNegative_decorated {x : Binary64} (hx : x.isNaN = false) (ds : List Decoration) :
    (if ds.any Decoration.negates then x.abs.neg else x).isNegative = true ↔
      (∃ d ∈ ds, d.negates = true) ∨ x.isNegative = true := by
  rw [← List.any_eq_true]
  split
  · next hany => exact iff_of_true (Binary64.isNegative_neg_abs hx) (Or.inl hany)
  · next hnone => exact ⟨Or.inr, fun h => h.resolve_left hnone⟩

theorem not_parse_of_isBlank {raw : String} (h : Text.isBlank raw = true) (y : Binary64) :
    parse raw ≠ .ok y := by
  intro hy
  obtain ⟨x, hx, -⟩ := parse_eq_ok_iff.1 hy
  refine trimChars_ne_nil_of_writes hx (Text.trimBy_eq_nil_iff.2 ?_)
  rwa [Text.isBlank, List.all_eq_true] at h

/-- **The laws of decorations.**  The passes over a text come to an end and leave what `undecorate`
leaves.  A text in one decoration is an amount exactly if the text is one, and it is the amount of
the text, or minus its absolute value behind a minus sign or in parentheses.  A nesting of
decorations around an amount is an amount, and it has a minus sign exactly if a decoration makes it
negative or the amount has one.  No nesting makes an amount of a blank text. -/
theorem decoration_laws :
    (∀ cs : List Char, ∃ n ≤ cs.length,
      sweep^[n] (false, cs) = undecorate cs ∧ sweep (undecorate cs) = undecorate cs ∧
        ∀ m < n, (sweep^[m + 1] (false, cs)).2.length < (sweep^[m] (false, cs)).2.length) ∧
    (∀ (d : Decoration) (raw : String) (y : Binary64),
      parse (d.apply raw) = .ok y ↔
        ∃ x, parse raw = .ok x ∧ y = if d.negates then x.abs.neg else x) ∧
    (∀ (ds : List Decoration) (raw : String) (x : Binary64), parse raw = .ok x →
      ∃ y, parse (decorate ds raw) = .ok y ∧
        (y = if ds.any Decoration.negates then x.abs.neg else x) ∧
        (y.isNegative = true ↔ (∃ d ∈ ds, d.negates = true) ∨ x.isNegative = true)) ∧
    (∀ (ds : List Decoration) (raw : String) (y : Binary64), Text.isBlank raw = true →
      parse (decorate ds raw) ≠ .ok y) := by
  refine ⟨fun cs => ?_, fun d raw y => Decoration.parse_apply_iff, fun ds raw x hx => ?_,
    fun ds raw y hblank hy => ?_⟩
  · have hstripped : stripped (false, cs) = undecorate cs := by rw [stripped, Bool.false_or]
    exact hstripped ▸ exists_sweeps (false, cs)
  · exact ⟨_, parse_decorate_iff.2 ⟨x, hx, rfl⟩, rfl,
      isNegative_decorated (isNaN_of_parse hx) ds⟩
  · obtain ⟨x, hx, -⟩ := parse_decorate_iff.1 hy
    exact not_parse_of_isBlank hblank x hx

/-- Five dollars behind a minus sign and in parentheses. -/
theorem decoration_laws_nested :
    decorate [.minus, .parentheses, .dollar] "5" = "-($5)" ∧
    ∃ x y, parse "5" = .ok x ∧ x.isNegative = false ∧
      parse (decorate [.minus, .parentheses, .dollar] "5") = .ok y ∧ y.isNegative = true := by
  have hcore : undecorate "5".toList = (false, "5".toList) :=
    undecorate_of_peel?_eq_none (by decide)
  have hparse : parse "5" = .ok (.ofRatio false 5 1) := by
    rw [parse, show Text.trimChars "5".toList = "5".toList by decide]
    simp only [hcore]
    decide +kernel
  obtain ⟨y, hy, -, hsign⟩ :=
    decoration_laws.2.2.1 [.minus, .parentheses, .dollar] "5" _ hparse
  refine ⟨by decide, _, y, hparse, by decide +kernel, hy, hsign.2 (Or.inl ?_)⟩
  exact ⟨.minus, by simp, rfl⟩

end SpendingLedger.Amount

import SpendingLedger.Value

/-!
# Amounts

An amount is written as a decimal number, in any nesting of signs, dollar signs and parentheses,
with commas between its digits: `-$1,234.56` and `(12.00)` are amounts.  A minus sign or a pair of
parentheses anywhere makes the amount negative.

## Main definitions

* `Amount.peel?`, `Amount.undecorate` — the outermost decoration of a text, and all of them.
* `Amount.parse` — the amount that a text writes, or why it writes none.
* `Amount.coerce` — the amount of a value of any kind, zero where it has none.

## References

`SPEC_FULL.md`, section 4.9, *Ingestion*.
-/

namespace SpendingLedger.Amount

/-! ### Decorations -/

/-- The outermost decoration of `cs`: whether it makes an amount negative, and what it decorates. -/
def peel? : List Char → Option (Bool × List Char)
  | '+' :: cs => some (false, cs.dropWhile Text.isSpace)
  | '-' :: cs => some (true, cs.dropWhile Text.isSpace)
  | '$' :: cs => some (false, cs.dropWhile Text.isSpace)
  | '(' :: cs => if cs.getLast? = some ')' then some (true, Text.trimChars cs.dropLast) else none
  | _ => none

/-- What a decoration decorates is shorter than the whole. -/
theorem length_lt_of_peel? {cs rest : List Char} {negative : Bool}
    (h : peel? cs = some (negative, rest)) : rest.length < cs.length := by
  unfold peel? at h
  split at h
  · simp only [Option.some.injEq, Prod.mk.injEq] at h
    exact h.2 ▸ Nat.lt_succ_of_le (Text.length_dropWhile_le ..)
  · simp only [Option.some.injEq, Prod.mk.injEq] at h
    exact h.2 ▸ Nat.lt_succ_of_le (Text.length_dropWhile_le ..)
  · simp only [Option.some.injEq, Prod.mk.injEq] at h
    exact h.2 ▸ Nat.lt_succ_of_le (Text.length_dropWhile_le ..)
  · split at h
    · simp only [Option.some.injEq, Prod.mk.injEq] at h
      exact h.2 ▸ Nat.lt_succ_of_le (Nat.le_trans (Text.length_trimChars_le _) (by simp))
    · simp at h
  · simp at h

/-- `cs` without any of its decorations, and whether one of them makes it negative. -/
def undecorate (cs : List Char) : Bool × List Char :=
  match _h : peel? cs with
  | none => (false, cs)
  | some (negative, rest) =>
    let inner := undecorate rest
    (negative || inner.1, inner.2)
termination_by cs.length
decreasing_by exact length_lt_of_peel? ‹_›

theorem undecorate_of_peel?_eq_none {cs : List Char} (h : peel? cs = none) :
    undecorate cs = (false, cs) := by
  rw [undecorate]; split <;> simp_all

theorem undecorate_of_peel?_eq_some {cs rest : List Char} {negative : Bool}
    (h : peel? cs = some (negative, rest)) :
    undecorate cs = (negative || (undecorate rest).1, (undecorate rest).2) := by
  rw [undecorate]; split <;> simp_all

/-! ### Amounts as text -/

/-- Why a text is no amount. -/
inductive ParseError
  /-- It is blank. -/
  | empty
  /-- It writes no finite number. -/
  | invalid (raw : String)
  deriving DecidableEq

/-- What is said of a text that is no amount. -/
def ParseError.message : ParseError → String
  | .empty => "amount is empty"
  | .invalid raw => String.join ["invalid amount: ", Text.quote raw]

/-- The number under all decorations: a finite decimal with commas anywhere. -/
def parseCore? (core : List Char) : Option Binary64 :=
  let digits := core.filter (· ≠ ',')
  if digits.contains '_' then none
  else match Decimal.parse? digits with
    | some (.finite x) => some x.toBinary64
    | _ => none

/-- The amount that `raw` writes, the specification's `parse_amount`. -/
def parse (raw : String) : Except ParseError Binary64 :=
  let cs := Text.trimChars raw.toList
  if cs.isEmpty then .error .empty
  else
    let (negative, core) := undecorate cs
    match parseCore? core with
    | none => .error (.invalid raw)
    | some x => .ok (if negative then x.abs.neg else x)

/-! ### Amounts of values -/

/-- Why a number has no amount. -/
inductive Misfit
  /-- An integer is too large for a binary64 number. -/
  | tooLarge
  /-- A decimal is a signalling datum. -/
  | signaling
  deriving DecidableEq

/-- `x` if it is finite, zero otherwise. -/
def finiteOrZero (x : Binary64) : Binary64 := if x.isFinite then x else .zero

/-- The amount of a number, if there is one. -/
def ofNumber (misfit : Misfit) : Option Binary64 → Except Misfit Binary64
  | none => .error misfit
  | some x => .ok (finiteOrZero x)

/-- The amount of a value: that of a number or of a text that writes one, and zero for anything
else.  This is the specification's `coerce_amount`. -/
def coerce : Value → Except Misfit Binary64
  | .null => .ok .zero
  | .bool _ => .ok .zero
  | .int n => ofNumber .tooLarge (Binary64.ofInt? n)
  | .float x => .ok (finiteOrZero x)
  | .decimal d => ofNumber .signaling d.toBinary64?
  | .text s => .ok ((parse s).toOption.getD .zero)
  | .list _ => .ok .zero
  | .table _ => .ok .zero

@[simp] theorem coerce_null : coerce .null = .ok .zero := rfl

@[simp] theorem coerce_bool (b : Bool) : coerce (.bool b) = .ok .zero := rfl

@[simp] theorem coerce_list (items : List Value) : coerce (.list items) = .ok .zero := rfl

@[simp] theorem coerce_table (fields : Fields Value) : coerce (.table fields) = .ok .zero := rfl

theorem coerce_float_of_isFinite {x : Binary64} (h : x.isFinite = true) :
    coerce (.float x) = .ok x := by
  rw [coerce, finiteOrZero, if_pos h]

end SpendingLedger.Amount

import SpendingLedger.Proofs.Query.Program
import SpendingLedger.Proofs.Query.Select

/-!
# Errors of queries and the data

Whether a query fails, and how, does not depend on the transactions that it is put to, provided
their own dates can be read.  Two evaluations of a term on two such transactions fail alike: with
one error, or neither of them.  Two runs of a program on such values keep stacks of one depth, so
they come to want operands at the same step.

## Main definitions

* `Alike` — two outcomes with one error, or with related values.
* `IsDated` — the transactions whose date can be read.

## Main results

* `evalTerm_alike` — a term fails alike on any two dated transactions.
* `Program.run_alike` — **two runs of a program keep stacks of one depth or fail alike.**
* `filter_error_iff` — **a search fails alike on any two ledgers**, and so does a term.
-/

namespace SpendingLedger.Query

/-! ### Outcomes that fail alike -/

/-- Two outcomes with one and the same error, or with values that `R` relates. -/
inductive Alike {ε α β : Type} (R : α → β → Prop) : Except ε α → Except ε β → Prop
  | error (e : ε) : Alike R (.error e) (.error e)
  | ok {a : α} {b : β} (related : R a b) : Alike R (.ok a) (.ok b)

namespace Alike

variable {ε ε' α β α' β' : Type} {R : α → β → Prop} {S : α' → β' → Prop}
  {x : Except ε α} {y : Except ε β}

theorem error_iff (h : Alike R x y) (e : ε) : x = .error e ↔ y = .error e := by
  cases h with
  | error e' => simp
  | ok related => simp

theorem refl {R : α → α → Prop} (hR : ∀ a, R a a) (x : Except ε α) : Alike R x x := by
  cases x with
  | error e => exact .error e
  | ok a => exact .ok (hR a)

theorem map {f : α → α'} {g : β → β'} (h : Alike R x y) (hfg : ∀ a b, R a b → S (f a) (g b)) :
    Alike S (x.map f) (y.map g) := by
  cases h with
  | error e => exact .error e
  | ok related => exact .ok (hfg _ _ related)

theorem bind {f : α → Except ε α'} {g : β → Except ε β'} (h : Alike R x y)
    (hfg : ∀ a b, R a b → Alike S (f a) (g b)) : Alike S (x.bind f) (y.bind g) := by
  cases h with
  | error e => exact .error e
  | ok related => exact hfg _ _ related

theorem mapError {f : ε → ε'} (h : Alike R x y) : Alike R (x.mapError f) (y.mapError f) := by
  cases h with
  | error e => exact .error (f e)
  | ok related => exact .ok related

end Alike

/-! ### Terms -/

/-- Whether the date of a transaction can be read. -/
def IsDated (today : Date) (t : Transaction) : Prop := ∃ d, day today t.date = .ok d

/-- Any two truth values. -/
def AnyValues (_ _ : Bool) : Prop := True

theorem amountCondition_alike (op : Comparator) (value : String) (t t' : Transaction) :
    Alike AnyValues (amountCondition op value t) (amountCondition op value t') := by
  unfold amountCondition
  cases op.onAmounts? with
  | none => exact .error _
  | some holds =>
    exact (Alike.refl (R := Eq) (fun _ => rfl) (number value)).map fun _ _ _ => trivial

/-- The value of a date is read whatever the date of the transaction is. -/
theorem dateCondition_alike {today : Date} {t t' : Transaction} (h : IsDated today t)
    (h' : IsDated today t') (op : Comparator) (value : String) :
    Alike AnyValues (dateCondition today op value t) (dateCondition today op value t') := by
  obtain ⟨d, hd⟩ := h
  obtain ⟨d', hd'⟩ := h'
  unfold dateCondition
  cases op.onDates? with
  | none => exact .error _
  | some holds =>
    simp only [hd, hd', Except.bind]
    exact (Alike.refl (R := Eq) (fun _ => rfl) (day today value)).map fun _ _ _ => trivial

theorem textCondition_alike (op : Comparator) (field value text text' : String) :
    Alike AnyValues (textCondition op field value text) (textCondition op field value text') := by
  unfold textCondition
  cases op.onTexts? with
  | none => exact .error _
  | some holds => exact .ok trivial

/-- A term fails alike on any two dated transactions. -/
theorem evalTerm_alike {today : Date} {t t' : Transaction} (h : IsDated today t)
    (h' : IsDated today t') (term : String) :
    Alike AnyValues (evalTerm today term t) (evalTerm today term t') := by
  unfold evalTerm
  cases Comparison.ofText? term with
  | none => exact .ok trivial
  | some c =>
    simp only [Comparison.eval]
    split
    · exact amountCondition_alike ..
    split
    · exact dateCondition_alike h h' ..
    split
    · exact textCondition_alike ..
    split
    · exact textCondition_alike ..
    · exact .error _

/-! ### Programs -/

/-- Stacks of one depth. -/
def SameDepth (stack stack' : List Bool) : Prop := stack.length = stack'.length

section

variable {value value' : String → Except Fault Bool}
  (hvalue : ∀ s, Alike AnyValues (value s) (value' s))

include hvalue

/-- A step leaves stacks of one depth at one depth, or lacks operands on both. -/
theorem Instruction.run_alike {stack stack' : List Bool} (h : SameDepth stack stack')
    (i : Instruction) : Alike SameDepth (i.run value stack) (i.run value' stack') := by
  cases i with
  | push s => exact (hvalue s).map fun _ _ _ => congrArg (· + 1) h
  | apply op =>
    match stack, stack', h with
    | [], [], _ => cases op <;> exact .error _
    | [b], [b'], _ =>
      cases op with
      | not => exact .ok rfl
      | and => exact .error _
      | or => exact .error _
    | b :: a :: rest, b' :: a' :: rest', h => cases op <;> exact .ok (by simpa [SameDepth] using h)

/-- Two runs of a program keep stacks of one depth or fail alike. -/
theorem Program.run_alike {stack stack' : List Bool} (h : SameDepth stack stack') (p : Program) :
    Alike SameDepth (p.run value stack) (p.run value' stack') := by
  induction p generalizing stack stack' with
  | nil => exact .ok h
  | cons i p ih =>
    rw [← List.singleton_append, run_append, run_append, run_singleton, run_singleton]
    exact (Instruction.run_alike hvalue h i).bind fun _ _ hstacks => ih hstacks

/-- A program fails alike on any two such values; what is left at its end is of one depth. -/
theorem Program.eval_alike (p : Program) : Alike AnyValues (p.eval value) (p.eval value') := by
  have hrun : Alike SameDepth (p.run value []) (p.run value' []) := run_alike hvalue rfl p
  unfold eval
  generalize p.run value [] = left at hrun ⊢
  generalize p.run value' [] = right at hrun ⊢
  cases hrun with
  | error e => exact .error e
  | @ok stack stack' h =>
    match stack, stack', h with
    | [], [], _ => exact .error _
    | [b], [b'], _ => exact .ok trivial
    | b :: a :: rest, b' :: a' :: rest', _ => exact .error _

end

/-! ### Searches -/

theorem holds_alike {today : Date} {t t' : Transaction} (h : IsDated today t)
    (h' : IsDated today t') (q : CompiledQuery) :
    Alike AnyValues (q.holds today t) (q.holds today t') :=
  (Program.eval_alike (evalTerm_alike h h') q.program).mapError

/-- A search whose condition fails alike on all transactions fails like the condition on one of
them. -/
theorem select_error_iff {holds : Transaction → Except QueryError Bool} {ledger : List Transaction}
    {x : Except QueryError Bool} (hne : ledger ≠ [])
    (h : ∀ t ∈ ledger, Alike AnyValues (holds t) x) (err : QueryError) :
    select holds ledger = .error err ↔ x = .error err := by
  constructor
  · intro hselect
    obtain ⟨t, ht, hfail⟩ := exists_of_select_eq_error hselect
    exact ((h t ht).error_iff err).1 hfail
  · intro hx
    cases ledger with
    | nil => exact absurd rfl hne
    | cons t rest =>
      have hfail := ((h t List.mem_cons_self).error_iff err).2 hx
      rw [select, hfail]

/-- **Errors of queries do not depend on the data.**  A query fails on one ledger exactly if it
fails on any other, with the same error, and so does a term on any two transactions; all their
dates can be read. -/
theorem filter_error_iff (today : Date) :
    (∀ (query : String) (ledger ledger' : List Transaction), ledger ≠ [] → ledger' ≠ [] →
      (∀ t ∈ ledger, IsDated today t) → (∀ t ∈ ledger', IsDated today t) → ∀ err,
        filter today query ledger = .error err ↔ filter today query ledger' = .error err) ∧
    ∀ (term : String) (t t' : Transaction), IsDated today t → IsDated today t' → ∀ fault,
      evalTerm today term t = .error fault ↔ evalTerm today term t' = .error fault := by
  refine ⟨?_, fun term t t' h h' => (evalTerm_alike h h' term).error_iff⟩
  intro query ledger ledger' hne hne' hdated hdated' err
  unfold filter
  cases compile query with
  | error e => exact Iff.rfl
  | ok compiled =>
    cases compiled with
    | none => simp
    | some q =>
      obtain ⟨first, hfirst⟩ := List.exists_mem_of_ne_nil ledger hne
      have halike : ∀ t, IsDated today t →
          Alike AnyValues (q.holds today t) (q.holds today first) :=
        fun t ht => holds_alike ht (hdated first hfirst) q
      exact (select_error_iff hne (fun t ht => halike t (hdated t ht)) err).trans
        (select_error_iff hne' (fun t ht => halike t (hdated' t ht)) err).symm

/-- A value that is no number is an error on a ledger whose only transaction has neither a
description nor a category, and so it is on every other ledger of dated transactions. -/
theorem filter_error_iff_not_a_number :
    ∃ (today : Date) (bare tea : Transaction), IsDated today bare ∧ IsDated today tea ∧
      bare.category = none ∧ tea.category = some "Drinks" ∧
      filter today "tea AND amount>=many" [bare] = .error (.invalid (.notANumber "many")) ∧
      filter today "tea AND amount>=many" [tea, bare] = .error (.invalid (.notANumber "many")) ∧
      evalTerm today "amount>=many" tea = .error (.notANumber "many") := by
  have hbare : IsDated ⟨2025, 7, 31, by decide⟩
      { id := "1", date := "2025-01-31", description := none, amount := .zero } :=
    ⟨⟨2025, 1, 31, by decide⟩, by rfl⟩
  have htea : IsDated ⟨2025, 7, 31, by decide⟩
      { id := "2", date := "2/1/2025", description := some "Tea", amount := .zero,
        category := some "Drinks" } :=
    ⟨⟨2025, 2, 1, by decide⟩, by rfl⟩
  have hledger : filter ⟨2025, 7, 31, by decide⟩ "tea AND amount>=many"
      [{ id := "1", date := "2025-01-31", description := none, amount := .zero }] =
      .error (.invalid (.notANumber "many")) := by
    rfl
  have hterm : evalTerm ⟨2025, 7, 31, by decide⟩ "amount>=many"
      { id := "1", date := "2025-01-31", description := none, amount := .zero } =
      .error (.notANumber "many") := by
    rfl
  refine ⟨_, _, _, hbare, htea, rfl, rfl, hledger, ?_, ?_⟩
  · exact ((filter_error_iff _).1 _ _ _ (by simp) (by simp) (by simpa using hbare)
      (by simpa using ⟨htea, hbare⟩) _).1 hledger
  · exact ((filter_error_iff _).2 _ _ _ hbare htea _).1 hterm

end SpendingLedger.Query

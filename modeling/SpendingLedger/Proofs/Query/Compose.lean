import SpendingLedger.Proofs.Query.Acceptance

/-!
# Queries between parentheses

A query between parentheses is read as it is read alone.  The open parenthesis shields what waits
below it on the stack, and the closing one puts out what the end of the query would.  So a query
that is made of others by an operator has the program made of theirs, and keeps what the operator
says of what they keep.  This holds of every query that has a program, be it well-formed or not.

## Main definitions

* `combined`, `negated` — queries made of others between parentheses.
* `grouped` — tokens between parentheses.
* `Yard.within` — a yard above an open parenthesis.

## Main results

* `Yard.run_within` — **what stands above an open parenthesis does not see what is below it.**
* `Yard.run_grouped` — tokens between parentheses put out their program and leave the stack.
* `Program.run_of_eval` — a program with a value puts it on any stack.
* `filter_combined` — **the programs of combined queries, and what they keep.**
-/

namespace SpendingLedger.Query

/-! ### Combined queries -/

/-- Two queries between parentheses with an operator between them. -/
def combined (op : Operator) (q r : String) : String :=
  "(" ++ q ++ ") " ++ op.text ++ " (" ++ r ++ ")"

/-- The negation of a query between parentheses. -/
def negated (q : String) : String := "NOT (" ++ q ++ ")"

/-! ### Their tokens -/

/-- Tokens between parentheses. -/
def grouped (ts : List Token) : List Token := .openParen :: (ts ++ [.closeParen])

/-- What stands between parentheses has its own tokens. -/
theorem tokensFrom_parenthesized (cs rest : List Char) :
    tokensFrom [] ('(' :: (cs ++ ')' :: rest)) =
      grouped (tokensFrom [] cs) ++ tokensFrom [] rest := by
  have hopen : isTermChar '(' = false := by decide
  have hclose : isTermChar ')' = false := by decide
  rw [tokensFrom_cons, hopen, if_neg (by decide), tokensFrom_append_cons hclose]
  simp [grouped, endToken]

/-- A word that writes an operator, and the space behind it. -/
theorem tokensFrom_operator (op : Operator) (rest : List Char) :
    tokensFrom [] (op.text.toList ++ ' ' :: rest) = .operator op :: tokensFrom [] rest := by
  have hspace : isTermChar ' ' = false := by decide
  have hword : tokensFrom [] op.text.toList = [.operator op] := by
    cases op <;> decide +kernel
  rw [tokensFrom_append_cons hspace, hword]
  rfl

theorem tokensFrom_space (rest : List Char) :
    tokensFrom [] (' ' :: rest) = tokensFrom [] rest :=
  tokensFrom_append_cons (by decide) [] [] rest

theorem tokenize_combined (op : Operator) (q r : String) :
    tokenize (combined op q r) =
      grouped (tokenize q) ++ .operator op :: grouped (tokenize r) := by
  have htext : (combined op q r).toList = '(' :: (q.toList ++ ')' ::
      ' ' :: (op.text.toList ++ ' ' :: '(' :: (r.toList ++ ')' :: []))) := by
    simp [combined]
  rw [tokenize, htext, tokensFrom_parenthesized, tokensFrom_space, tokensFrom_operator,
    tokensFrom_parenthesized]
  simp [tokenize]

theorem tokenize_negated (q : String) :
    tokenize (negated q) = .operator .not :: grouped (tokenize q) := by
  have htext : (negated q).toList =
      Operator.not.text.toList ++ ' ' :: '(' :: (q.toList ++ ')' :: []) := by
    simp [negated, Operator.text]
  rw [tokenize, htext, tokensFrom_operator, tokensFrom_parenthesized]
  simp [tokenize]

/-! ### The shield of an open parenthesis -/

/-- The yard `y` above an open parenthesis, with `output` put out and `stack` waiting before. -/
def Yard.within (y : Yard) (output : Program) (stack : List Waiting) : Yard :=
  ⟨output ++ y.output, y.stack ++ .openParen :: stack⟩

/-- An operator completes nothing below an open parenthesis. -/
theorem completed_within (incoming : Operator) (above below : List Waiting) :
    completed incoming (above ++ .openParen :: below) =
      ((completed incoming above).1, (completed incoming above).2 ++ .openParen :: below) := by
  induction above with
  | nil => rfl
  | cons w above ih =>
    cases w with
    | openParen => rfl
    | operator op =>
      rw [List.cons_append, completed, completed]
      split
      · rw [ih]
      · rfl

/-- A parenthesis that is closed above another one leaves that one open. -/
theorem closed_within {above rest : List Waiting} {steps : Program}
    (h : closed above = some (steps, rest)) (below : List Waiting) :
    closed (above ++ .openParen :: below) = some (steps, rest ++ .openParen :: below) := by
  obtain ⟨ops, rfl, rfl⟩ := closed_eq h
  rw [List.append_assoc, List.cons_append, closed_append]

theorem Yard.step_within {y y' : Yard} {t : Token} (h : y.step t = .ok y') (output : Program)
    (stack : List Waiting) :
    (y.within output stack).step t = .ok (y'.within output stack) := by
  cases t with
  | term s =>
    cases h
    simp [step, within]
  | openParen =>
    cases h
    simp [step, within]
  | closeParen =>
    simp only [step] at h
    cases hc : closed y.stack with
    | none => simp [hc] at h
    | some r =>
      obtain ⟨steps, rest⟩ := r
      simp only [hc, Except.ok.injEq] at h
      subst h
      simp [step, within, closed_within hc]
  | operator op =>
    simp only [step, Except.ok.injEq] at h
    subst h
    simp [step, within, completed_within]
  | unknownOperator name => cases h

/-- What stands above an open parenthesis does not see what is below it. -/
theorem Yard.run_within {y y' : Yard} {ts : List Token} (h : y.run ts = .ok y')
    (output : Program) (stack : List Waiting) :
    (y.within output stack).run ts = .ok (y'.within output stack) := by
  refine run_induction (R := fun y ts y' =>
    (y.within output stack).run ts = .ok (y'.within output stack)) ?_ ?_ h
  · intro y
    rfl
  · intro y z y' t ts hstep hrest
    rw [run_cons, step_within hstep]
    exact hrest

/-- Tokens between parentheses put out their program and leave the stack as it is: the closing
parenthesis takes off what the end of the tokens would. -/
theorem Yard.run_grouped {ts : List Token} {p : Program} (h : Program.ofTokens ts = .ok p)
    (y : Yard) : y.run (grouped ts) = .ok ⟨y.output ++ p, y.stack⟩ := by
  obtain ⟨z, ops, hrun, hstack, rfl⟩ := exists_run_of_ofTokens h
  have hopen : y.step .openParen = .ok (Yard.within {} y.output y.stack) := by
    simp [step, within]
  rw [grouped, run_cons, hopen, Except.bind, run_append, run_within hrun, Except.bind, within,
    hstack, run_cons, step_closeParen, List.append_assoc]
  rfl

/-! ### The programs of combined queries -/

theorem ofTokens_combined {ts us : List Token} {p q : Program} (op : Operator)
    (hp : Program.ofTokens ts = .ok p) (hq : Program.ofTokens us = .ok q) :
    Program.ofTokens (grouped ts ++ .operator op :: grouped us) = .ok (p ++ q ++ [.apply op]) := by
  have hstep : Yard.step ⟨p, []⟩ (.operator op) = .ok ⟨p, [.operator op]⟩ := by
    simp [Yard.step, completed]
  rw [ofTokens_eq, Yard.run_append, Yard.run_grouped hp]
  simp only [Except.bind, List.nil_append, Yard.run_cons, hstep, Yard.run_grouped hq]
  rfl

theorem ofTokens_negated {ts : List Token} {p : Program} (hp : Program.ofTokens ts = .ok p) :
    Program.ofTokens (.operator .not :: grouped ts) = .ok (p ++ [.apply .not]) := by
  rw [ofTokens_eq, Yard.run_cons, Yard.step_not]
  simp only [Except.bind, Yard.run_grouped hp]
  rfl

/-- A query with a program is not blank, and the program is that of its tokens. -/
theorem compile_eq_ok_iff {q : String} {p : Program} :
    compile q = .ok (some ⟨q, p⟩) ↔ tokenize q ≠ [] ∧ Program.ofTokens (tokenize q) = .ok p := by
  by_cases hblank : tokenize q = []
  · simp [compile, hblank]
  · rw [compile_eq hblank]
    cases Program.ofTokens (tokenize q) <;> simp [Except.map, hblank]

theorem compile_combined {q r : String} {p s : Program} (op : Operator)
    (hq : compile q = .ok (some ⟨q, p⟩)) (hr : compile r = .ok (some ⟨r, s⟩)) :
    compile (combined op q r) = .ok (some ⟨combined op q r, p ++ s ++ [.apply op]⟩) := by
  rw [compile_eq_ok_iff] at hq hr ⊢
  rw [tokenize_combined]
  exact ⟨by simp, ofTokens_combined op hq.2 hr.2⟩

theorem compile_negated {q : String} {p : Program} (hq : compile q = .ok (some ⟨q, p⟩)) :
    compile (negated q) = .ok (some ⟨negated q, p ++ [.apply .not]⟩) := by
  rw [compile_eq_ok_iff] at hq ⊢
  rw [tokenize_negated]
  exact ⟨by simp, ofTokens_negated hq.2⟩

/-! ### The values of combined programs -/

/-- A program with a value puts it on any stack. -/
theorem Program.run_of_eval {value : String → Except Fault Bool} {p : Program} {b : Bool}
    (h : p.eval value = .ok b) (stack : List Bool) : p.run value stack = .ok (b :: stack) := by
  obtain ⟨e, rfl⟩ := eq_postorder_of_eval h
  rw [eval_postorder] at h
  rw [run_postorder, h]
  rfl

theorem Program.eval_of_run {value : String → Except Fault Bool} {p : Program} {b : Bool}
    (h : p.run value [] = .ok [b]) : p.eval value = .ok b := by
  rw [eval, h]

theorem Program.eval_combined {value : String → Except Fault Bool} {p q : Program} {a b : Bool}
    {op : Operator} (hop : op ≠ .not) (hp : p.eval value = .ok a) (hq : q.eval value = .ok b) :
    Program.eval value (p ++ q ++ [.apply op]) = .ok (op.value a b) := by
  refine eval_of_run ?_
  rw [run_append, run_append, run_of_eval hp, Except.bind, run_of_eval hq, Except.bind,
    run_singleton, run_apply_binary value hop]

theorem Program.eval_negated {value : String → Except Fault Bool} {p : Program} {a : Bool}
    (hp : p.eval value = .ok a) : Program.eval value (p ++ [.apply .not]) = .ok !a := by
  refine eval_of_run ?_
  rw [run_append, run_of_eval hp, Except.bind, run_singleton]
  rfl

/-! ### What combined queries keep -/

theorem holds_eq_ok_iff {today : Date} {c : CompiledQuery} {t : Transaction} {b : Bool} :
    c.holds today t = .ok b ↔ (c.program.eval fun term => evalTerm today term t) = .ok b := by
  unfold CompiledQuery.holds
  cases c.program.eval fun term => evalTerm today term t with
  | error e => exact iff_of_false nofun nofun
  | ok a =>
    show Except.ok a = Except.ok b ↔ _
    rw [Except.ok.injEq, Except.ok.injEq]

/-- A search with a query that has a program succeeds exactly if the program has a value for each
transaction. -/
theorem filter_eq_ok_iff {today : Date} {q : String} {p : Program} {ledger kept : List Transaction}
    (hq : compile q = .ok (some ⟨q, p⟩)) :
    filter today q ledger = .ok kept ↔
      ∃ keeps : Transaction → Bool,
        (∀ t ∈ ledger, (p.eval fun term => evalTerm today term t) = .ok (keeps t)) ∧
          kept = ledger.filter keeps := by
  rw [filter, hq]
  simp only [select_eq_ok_iff, holds_eq_ok_iff]

/-- Of the members of a ledger, those that a search kept are those that pass its test. -/
theorem mem_kept_iff {ledger : List Transaction} {keeps : Transaction → Bool} {t : Transaction}
    (ht : t ∈ ledger) : t ∈ ledger.filter keeps ↔ keeps t = true := by
  rw [List.mem_filter, and_iff_right ht]

section

variable {today : Date} {q r : String} {p s : Program} {ledger : List Transaction}
  {keeps keeps' : Transaction → Bool}

theorem filter_negated_eq (hq : compile q = .ok (some ⟨q, p⟩))
    (hkeeps : ∀ t ∈ ledger, (p.eval fun term => evalTerm today term t) = .ok (keeps t)) :
    filter today (negated q) ledger = .ok (ledger.filter fun t => !keeps t) :=
  (filter_eq_ok_iff (compile_negated hq)).2
    ⟨fun t => !keeps t, fun t ht => Program.eval_negated (hkeeps t ht), rfl⟩

theorem filter_combined_eq {op : Operator} (hop : op ≠ .not)
    (hq : compile q = .ok (some ⟨q, p⟩)) (hr : compile r = .ok (some ⟨r, s⟩))
    (hkeeps : ∀ t ∈ ledger, (p.eval fun term => evalTerm today term t) = .ok (keeps t))
    (hkeeps' : ∀ t ∈ ledger, (s.eval fun term => evalTerm today term t) = .ok (keeps' t)) :
    filter today (combined op q r) ledger =
      .ok (ledger.filter fun t => op.value (keeps t) (keeps' t)) :=
  (filter_eq_ok_iff (compile_combined op hq hr)).2
    ⟨fun t => op.value (keeps t) (keeps' t),
      fun t ht => Program.eval_combined hop (hkeeps t ht) (hkeeps' t ht), rfl⟩

end

/-- **Combined queries.**  Two queries that have programs, combined between parentheses, have the
program made of theirs.  Where both have values for all transactions, the combination keeps, in
order, what both keep or what one of them keeps, and a negation keeps what the query drops. -/
theorem filter_combined {q r : String} {p s : Program} (hq : compile q = .ok (some ⟨q, p⟩))
    (hr : compile r = .ok (some ⟨r, s⟩)) :
    (compile (combined .and q r) = .ok (some ⟨combined .and q r, p ++ s ++ [.apply .and]⟩) ∧
      compile (combined .or q r) = .ok (some ⟨combined .or q r, p ++ s ++ [.apply .or]⟩) ∧
      compile (negated q) = .ok (some ⟨negated q, p ++ [.apply .not]⟩)) ∧
    ∀ (today : Date) (ledger kept : List Transaction), filter today q ledger = .ok kept →
      (filter today (negated q) ledger = .ok (ledger.filter fun t => t ∉ kept) ∧
        (kept ++ ledger.filter fun t => t ∉ kept).Perm ledger) ∧
      ∀ kept' : List Transaction, filter today r ledger = .ok kept' →
        filter today (combined .and q r) ledger =
            .ok (ledger.filter fun t => t ∈ kept ∧ t ∈ kept') ∧
          filter today (combined .or q r) ledger =
            .ok (ledger.filter fun t => t ∈ kept ∨ t ∈ kept') := by
  refine ⟨⟨compile_combined .and hq hr, compile_combined .or hq hr, compile_negated hq⟩, ?_⟩
  intro today ledger kept hkept
  obtain ⟨keeps, hkeeps, rfl⟩ := (filter_eq_ok_iff hq).1 hkept
  have hdropped : (ledger.filter fun t => t ∉ ledger.filter keeps) =
      ledger.filter fun t => !keeps t :=
    List.filter_congr fun t ht => by simp [mem_kept_iff ht]
  refine ⟨?_, fun kept' hkept' => ?_⟩
  · rw [hdropped]
    exact ⟨filter_negated_eq hq hkeeps, List.filter_append_perm keeps ledger⟩
  · obtain ⟨keeps', hkeeps', rfl⟩ := (filter_eq_ok_iff hr).1 hkept'
    have hboth : (ledger.filter fun t => t ∈ ledger.filter keeps ∧ t ∈ ledger.filter keeps') =
        ledger.filter fun t => Operator.and.value (keeps t) (keeps' t) :=
      List.filter_congr fun t ht => by simp [mem_kept_iff ht, Operator.value]
    have heither : (ledger.filter fun t => t ∈ ledger.filter keeps ∨ t ∈ ledger.filter keeps') =
        ledger.filter fun t => Operator.or.value (keeps t) (keeps' t) :=
      List.filter_congr fun t ht => by simp [mem_kept_iff ht, Operator.value]
    rw [hboth, heither]
    exact ⟨filter_combined_eq (by decide) hq hr hkeeps hkeeps',
      filter_combined_eq (by decide) hq hr hkeeps hkeeps'⟩

/-- A query that is not well-formed combined with one that is: each keeps one of two transactions,
the negation of the first one keeps the other, and one or the other keeps both. -/
theorem filter_combined_operator_behind :
    compile "gas tea AND" =
      .ok (some ⟨"gas tea AND", [.push "gas", .push "tea", .apply .and]⟩) ∧
    compile "rail" = .ok (some ⟨"rail", [.push "rail"]⟩) ∧
    ∃ (today : Date) (first second : Transaction),
      filter today "gas tea AND" [first, second] = .ok [first] ∧
      filter today "rail" [first, second] = .ok [second] ∧
      filter today "NOT (gas tea AND)" [first, second] = .ok [second] ∧
      filter today "(gas tea AND) OR (rail)" [first, second] = .ok [first, second] := by
  have hq : compile "gas tea AND" =
      .ok (some ⟨"gas tea AND", [.push "gas", .push "tea", .apply .and]⟩) := by
    rfl
  have hr : compile "rail" = .ok (some ⟨"rail", [.push "rail"]⟩) := by
    rfl
  have hkept : filter ⟨2025, 7, 31, by decide⟩ "gas tea AND"
      [{ id := "1", date := "2025-01-31", description := some "gas tea", amount := .zero },
        { id := "2", date := "2025-02-01", description := some "rail gas", amount := .zero }] =
      .ok [{ id := "1", date := "2025-01-31", description := some "gas tea",
             amount := .zero }] := by
    rfl
  have hkept' : filter ⟨2025, 7, 31, by decide⟩ "rail"
      [{ id := "1", date := "2025-01-31", description := some "gas tea", amount := .zero },
        { id := "2", date := "2025-02-01", description := some "rail gas", amount := .zero }] =
      .ok [{ id := "2", date := "2025-02-01", description := some "rail gas",
             amount := .zero }] := by
    rfl
  obtain ⟨⟨hnegated, -⟩, hcombined⟩ := (filter_combined hq hr).2 _ _ _ hkept
  exact ⟨hq, hr, _, _, _, hkept, hkept', hnegated, (hcombined _ hkept').2⟩

end SpendingLedger.Query

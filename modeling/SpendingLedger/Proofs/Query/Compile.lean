import SpendingLedger.Proofs.Query.Program

/-!
# The programs of well-formed queries

The pass over the tokens of a well-formed query gives the postorder of the query's tree.  While it
reads a part of some rank, only operators that bind as tightly as that rank's own can come to wait,
and nothing below them on the stack is touched: what is put out and what waits are together the
postorder of the part.

## Main definitions

* `Rank.operator`, `Settled` — the operator of a rank, and the stacks that it leaves alone.
* `ReadsAs` — the yards before and after a part of a query.

## Main results

* `Yard.run_of_derives` — **the invariant of the pass** over a derived sequence of tokens.
* `ofTokens_of_derives` — the program of a derived sequence is the postorder of its tree.
* `holds_of_derives` — **a well-formed query means what its tree means.**
-/

namespace SpendingLedger.Query

/-! ### The invariant of the pass -/

/-- The operator that makes the rows of a rank. -/
def Rank.operator : Rank → Operator
  | .disjunction => .or
  | .conjunction => .and
  | .operand => .not

/-- Whether the operator of a rank leaves a stack as it is. -/
def Settled (r : Rank) (stack : List Waiting) : Prop :=
  ∀ op rest, stack = .operator op :: rest → r.operator.completes op = false

theorem settled_nil (r : Rank) : Settled r [] := by
  intro op rest h
  cases h

theorem settled_openParen (r : Rank) (stack : List Waiting) :
    Settled r (.openParen :: stack) := by
  intro op rest h
  cases h

/-- A negation completes nothing that waits. -/
theorem settled_operand (stack : List Waiting) : Settled .operand stack := by
  intro op rest _
  cases op <;> rfl

theorem settled_conjunction_or (stack : List Waiting) :
    Settled .conjunction (.operator .or :: stack) := by
  intro op rest h
  cases h
  rfl

/-- What a disjunction leaves as it is, a conjunction does too. -/
theorem Settled.conjunction {stack : List Waiting} (h : Settled .disjunction stack) :
    Settled .conjunction stack := by
  intro op rest hs
  have hor : Operator.or.completes op = false := h op rest hs
  cases op <;> exact absurd hor (by decide)

/-- A negation is put on the stack, whatever waits there. -/
theorem Yard.step_not (y : Yard) :
    y.step (.operator .not) = .ok ⟨y.output, .operator .not :: y.stack⟩ := by
  have h : completed .not y.stack = ([], y.stack) :=
    @completed_append .not [] y.stack (by simp) (settled_operand y.stack)
  simp [Yard.step, h]

/-- An operator that groups from the left takes off what waits at its rank, all of which it
completes. -/
theorem Yard.step_operator {r : Rank} (hr : r ≠ .operand) {output : Program} {ops : List Operator}
    {stack : List Waiting} (hops : ∀ op ∈ ops, r.operator.precedence ≤ op.precedence)
    (hstack : Settled r stack) :
    Yard.step ⟨output, ops.map .operator ++ stack⟩ (.operator r.operator) =
      .ok ⟨output ++ ops.map .apply, .operator r.operator :: stack⟩ := by
  have hcompletes : ∀ op ∈ ops, r.operator.completes op = true := by
    intro op hop
    cases r with
    | operand => exact absurd rfl hr
    | conjunction => exact decide_eq_true (hops op hop)
    | disjunction => exact decide_eq_true (hops op hop)
  simp only [Yard.step, completed_append hcompletes hstack]

/-- A closing parenthesis takes off what waits above its opening one, and that one with it. -/
theorem Yard.step_closeParen (output : Program) (ops : List Operator) (stack : List Waiting) :
    Yard.step ⟨output, ops.map .operator ++ .openParen :: stack⟩ .closeParen =
      .ok ⟨output ++ ops.map .apply, stack⟩ := by
  simp only [Yard.step, closed_append]

/-- A yard after a part of rank `r` with the tree `e`: the stack is what it was, below operators
that bind at least as tightly as that of `r`, and what was put out, followed by them, is the
postorder of `e`. -/
def ReadsAs (r : Rank) (e : Expr) (before : Yard) (after : Except QueryError Yard) : Prop :=
  ∃ (p : Program) (ops : List Operator),
    after = .ok ⟨before.output ++ p, ops.map .operator ++ before.stack⟩ ∧
    p ++ ops.map .apply = e.postorder ∧ ∀ op ∈ ops, r.operator.precedence ≤ op.precedence

/-- What binds as tightly as a rank binds as tightly as every lower one. -/
theorem ReadsAs.mono {r r' : Rank} {e : Expr} {y : Yard} {after : Except QueryError Yard}
    (h : ReadsAs r e y after) (hr : r'.operator.precedence ≤ r.operator.precedence) :
    ReadsAs r' e y after := by
  obtain ⟨p, ops, hafter, hpost, hops⟩ := h
  exact ⟨p, ops, hafter, hpost, fun op hop => Nat.le_trans hr (hops op hop)⟩

/-- Two parts with an operator between them that groups from the left. -/
theorem ReadsAs.binary {r r' : Rank} (hr : r ≠ .operand)
    (hr' : r.operator.precedence ≤ r'.operator.precedence) {ts us : List Token} {e l e' : Expr}
    (he : e.postorder = l.postorder ++ e'.postorder ++ [.apply r.operator]) {y : Yard}
    (hy : Settled r y.stack) (hleft : ReadsAs r l y (y.run ts))
    (hright : ∀ output, ReadsAs r' e' ⟨output, .operator r.operator :: y.stack⟩
      (Yard.run ⟨output, .operator r.operator :: y.stack⟩ us)) :
    ReadsAs r e y (y.run (ts ++ .operator r.operator :: us)) := by
  obtain ⟨p, ops, hrun, hpost, hops⟩ := hleft
  obtain ⟨q, ops', hrun', hpost', hops'⟩ := hright (y.output ++ p ++ ops.map .apply)
  refine ⟨p ++ ops.map .apply ++ q, ops' ++ [r.operator], ?_, ?_, ?_⟩
  · rw [Yard.run_append, hrun]
    simp only [Except.bind, Yard.run_cons, Yard.step_operator hr hops hy, hrun']
    simp [List.append_assoc]
  · rw [he, ← hpost, ← hpost']
    simp [List.append_assoc]
  · intro op hop
    rcases List.mem_append.1 hop with hop | hop
    · exact Nat.le_trans hr' (hops' op hop)
    · exact Nat.le_of_eq (by rw [List.mem_singleton.1 hop])

/-- **The invariant of the pass**: a part of rank `r` is read on a stack that the operator of `r`
leaves alone. -/
theorem Yard.run_of_derives {r : Rank} {ts : List Token} {e : Expr} (h : Derives r ts e) (y : Yard)
    (hy : Settled r y.stack) : ReadsAs r e y (y.run ts) := by
  induction h generalizing y with
  | term s => exact ⟨[.push s], [], rfl, rfl, by simp⟩
  | not _ ih =>
    -- the negation waits below those of its operand
    obtain ⟨p, ops, hrun, hpost, hops⟩ := 
      ih ⟨y.output, .operator .not :: y.stack⟩ (settled_operand _)
    refine ⟨p, ops ++ [.not], ?_, ?_, ?_⟩
    · rw [Yard.run_cons, Yard.step_not]
      simpa [Except.bind] using hrun
    · rw [Expr.postorder, ← hpost]
      simp
    · intro op hop
      rcases List.mem_append.1 hop with hop | hop
      · exact hops op hop
      · rw [List.mem_singleton.1 hop]
        exact Nat.le_refl _
  | group _ ih =>
    -- the opening parenthesis shields the stack, and the closing one puts out what waits above it
    obtain ⟨p, ops, hrun, hpost, -⟩ := ih ⟨y.output, .openParen :: y.stack⟩ (settled_openParen _ _)
    refine ⟨p ++ ops.map .apply, [], ?_, by simpa using hpost, by simp⟩
    rw [Yard.run_cons, Yard.step, Except.bind, Yard.run_append, hrun]
    simp [Except.bind, Yard.run_cons, Yard.step_closeParen]
  | ofOperand _ ih => exact (ih y (settled_operand _)).mono (by decide)
  | and _ _ ihl ihr =>
    exact ReadsAs.binary (r := .conjunction) (by decide) (by decide) rfl hy (ihl y hy)
      fun output => ihr _ (settled_operand _)
  | ofConjunction _ ih => exact (ih y hy.conjunction).mono (by decide)
  | or _ _ ihl ihr =>
    exact ReadsAs.binary (r := .disjunction) (by decide) (by decide) rfl hy (ihl y hy)
      fun output => ihr _ (settled_conjunction_or _)

/-! ### Whole queries -/

/-- The program of a well-formed query is the postorder of its tree. -/
theorem ofTokens_of_derives {ts : List Token} {e : Expr} (h : Derives .disjunction ts e) :
    Program.ofTokens ts = .ok e.postorder := by
  obtain ⟨p, ops, hrun, hpost, -⟩ := Yard.run_of_derives h {} (settled_nil _)
  simp only [List.nil_append, List.append_nil] at hrun
  rw [ofTokens_eq, hrun, ← hpost]
  simp only [Except.bind, Yard.finish, drained_operators]

/-- A query that is not blank is compiled to the program of its tokens. -/
theorem compile_eq {query : String} (h : tokenize query ≠ []) :
    compile query =
      (Program.ofTokens (tokenize query)).map fun program => some ⟨query, program⟩ := by
  rw [compile]
  split
  · next hnil => exact absurd hnil h
  · rfl

/-- A well-formed query is compiled to the postorder of its tree. -/
theorem compile_of_derives {query : String} {e : Expr}
    (h : Derives .disjunction (tokenize query) e) :
    compile query = .ok (some ⟨query, e.postorder⟩) := by
  rw [compile_eq h.ne_nil, ofTokens_of_derives h]
  rfl

/-- **A well-formed query means what its tree means.**  It has a program; for a transaction for
which every term has a value the program gives the truth value of the tree, and for every other one
it gives the fault of the leftmost term without a value. -/
theorem holds_of_derives {query : String} {e : Expr}
    (h : Derives .disjunction (tokenize query) e) :
    ∃ q : CompiledQuery, compile query = .ok (some q) ∧ ∀ (today : Date) (t : Transaction),
      (∀ value : String → Bool,
        (∀ s ∈ termsOf (tokenize query), evalTerm today s t = .ok (value s)) →
          q.holds today t = .ok (e.truth value)) ∧
      (∀ (before after : List String) (s : String) (fault : Fault),
        termsOf (tokenize query) = before ++ s :: after →
        (∀ r ∈ before, ∃ b, evalTerm today r t = .ok b) → evalTerm today s t = .error fault →
          q.holds today t = .error (.invalid fault)) := by
  refine ⟨⟨query, e.postorder⟩, compile_of_derives h, fun today t => ⟨?_, ?_⟩⟩
  · intro value hvalue
    rw [CompiledQuery.holds, Program.eval_postorder, Expr.eval_of_terms (h.terms_eq ▸ hvalue)]
    rfl
  · intro before after s fault hterms hbefore hs
    rw [CompiledQuery.holds, Program.eval_postorder,
      Expr.eval_of_leftmost (h.terms_eq.trans hterms) hbefore hs]
    rfl

/-- A query with all three operators and a parenthesis, for a transaction that has one of its three
words. -/
theorem holds_of_derives_nested :
    Derives .disjunction (tokenize "gas OR NOT (tea AND rail)")
      (.or (.term "gas") (.not (.and (.term "tea") (.term "rail")))) ∧
    ∃ q : CompiledQuery, compile "gas OR NOT (tea AND rail)" = .ok (some q) ∧
      q.holds ⟨2025, 7, 31, by decide⟩
        { id := "1", date := "2025-01-31", description := some "Tea", amount := .zero } =
          .ok true := by
  have htokens : tokenize "gas OR NOT (tea AND rail)" =
      [.term "gas"] ++ .operator .or :: .operator .not :: .openParen ::
        (([.term "tea"] ++ .operator .and :: [.term "rail"]) ++ [.closeParen]) := by
    decide +kernel
  have hinner : Derives .disjunction ([.term "tea"] ++ .operator .and :: [.term "rail"])
      (.and (.term "tea") (.term "rail")) :=
    .ofConjunction (.and (.ofOperand (.term "tea")) (.term "rail"))
  have hderives : Derives .disjunction (tokenize "gas OR NOT (tea AND rail)")
      (.or (.term "gas") (.not (.and (.term "tea") (.term "rail")))) :=
    htokens ▸ .or (.ofConjunction (.ofOperand (.term "gas"))) (.ofOperand (.not (.group hinner)))
  obtain ⟨q, hq, hholds⟩ := holds_of_derives hderives
  refine ⟨hderives, q, hq, (hholds _ _).1 (fun s => s == "tea") ?_⟩
  rw [htokens]
  simp only [List.cons_append, List.nil_append, termsOf_term, termsOf_operator, termsOf_openParen,
    termsOf_closeParen, termsOf_nil, List.forall_mem_cons]
  exact ⟨by rfl, by rfl, by rfl, by simp⟩

end SpendingLedger.Query

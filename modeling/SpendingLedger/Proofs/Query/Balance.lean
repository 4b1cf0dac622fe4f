import Mathlib.Data.List.Infix
import SpendingLedger.Proofs.Query.Acceptance

/-!
# Balanced parentheses

The pass over the tokens of a query looks at nothing but their parentheses: it fails exactly if
these are not balanced, whatever stands between them.  While it runs, as many parentheses wait on
its stack as are open in the tokens so far.  What it gives has no parenthesis, has every other token
as often as the query has it, and has the terms in the order of the query.

## Main definitions

* `Balanced` — the sequences of tokens with balanced parentheses.
* `nesting` — by how many parentheses more are open behind tokens than before them.

## Main results

* `Yard.exists_run_iff` — **the pass goes on as long as nothing is closed that is not open.**
* `termsOf_ofTokens` — a program has the terms of its tokens, in their order.
* `ofTokens_balanced` — **the tokens with a program, and what the program has of them.**
-/

namespace SpendingLedger.Query

/-! ### Balance -/

/-- Whether the parentheses among tokens are balanced: no beginning closes more of them than it
opens, and the whole closes as many as it opens. -/
def Balanced (ts : List Token) : Prop :=
  (∀ us, us <+: ts → us.count .closeParen ≤ us.count .openParen) ∧
    ts.count .closeParen = ts.count .openParen

instance (ts : List Token) : Decidable (Balanced ts) :=
  decidable_of_iff ((∀ us ∈ ts.inits, us.count .closeParen ≤ us.count .openParen) ∧
    ts.count .closeParen = ts.count .openParen) (by simp only [List.mem_inits, Balanced])

/-- By how many parentheses more are open behind tokens than before them. -/
def nesting (ts : List Token) : Int :=
  (ts.count .openParen : Int) - (ts.count .closeParen : Int)

@[simp] theorem nesting_nil : nesting [] = 0 := rfl

theorem nesting_cons (t : Token) (ts : List Token) :
    nesting (t :: ts) = t.nesting + nesting ts := by
  cases t <;> simp [nesting, Token.nesting] <;> omega

theorem balanced_iff {ts : List Token} :
    Balanced ts ↔ (∀ us, us <+: ts → 0 ≤ nesting us) ∧ nesting ts = 0 := by
  unfold Balanced nesting
  refine and_congr (forall₂_congr fun us _ => ?_) ?_ <;> omega

/-! ### When the pass goes on -/

/-- A parenthesis can be closed exactly if one is open. -/
theorem isSome_closed_iff {stack : List Waiting} :
    (closed stack).isSome = true ↔ 0 < openCount stack := by
  induction stack with
  | nil => simp [closed, openCount]
  | cons w stack ih =>
    cases w with
    | openParen => simp [closed, openCount]
    | operator op => simpa [closed, openCount] using ih

/-- All that waits can be put out exactly if no parenthesis is open. -/
theorem isSome_drained_iff {stack : List Waiting} :
    (drained stack).isSome = true ↔ openCount stack = 0 := by
  induction stack with
  | nil => simp [drained, openCount]
  | cons w stack ih =>
    cases w with
    | openParen => simp [drained, openCount]
    | operator op => simpa [drained, openCount] using ih

/-- **A step of the pass** fails only at a parenthesis that closes none. -/
theorem Yard.exists_step_iff {y : Yard} {t : Token} (ht : ∀ name, t ≠ .unknownOperator name) :
    (∃ y', y.step t = .ok y') ↔ 0 ≤ (openCount y.stack : Int) + t.nesting := by
  cases t with
  | term s => exact iff_of_true ⟨_, rfl⟩ (by simp [Token.nesting])
  | operator op => exact iff_of_true ⟨_, rfl⟩ (by simp [Token.nesting])
  | openParen => exact iff_of_true ⟨_, rfl⟩ (by simp [Token.nesting]; omega)
  | closeParen =>
    have hcount : 0 ≤ (openCount y.stack : Int) + Token.closeParen.nesting ↔
        0 < openCount y.stack := by
      simp only [Token.nesting]
      omega
    rw [hcount, ← isSome_closed_iff, Yard.step]
    cases closed y.stack with
    | none => simp
    | some r => simp
  | unknownOperator name => exact absurd rfl (ht name)

/-- **The pass goes on as long as nothing is closed that is not open**, from whatever yard it
starts. -/
theorem Yard.exists_run_iff {y : Yard} {ts : List Token}
    (hts : ∀ name, Token.unknownOperator name ∉ ts) :
    (∃ y', y.run ts = .ok y') ↔
      ∀ us, us <+: ts → 0 ≤ (openCount y.stack : Int) + nesting us := by
  induction ts generalizing y with
  | nil =>
    refine iff_of_true ⟨y, rfl⟩ fun us hus => ?_
    rw [List.prefix_nil.1 hus, nesting_nil]
    omega
  | cons t ts ih =>
    have ht : ∀ name, t ≠ .unknownOperator name :=
      fun name h => hts name (h ▸ List.mem_cons_self)
    have hrest : ∀ name, Token.unknownOperator name ∉ ts :=
      fun name h => hts name (List.mem_cons_of_mem _ h)
    rw [Yard.run_cons]
    cases hstep : y.step t with
    | error e =>
      refine iff_of_false (by simp [Except.bind]) fun h => ?_
      have hfirst := h [t] ⟨ts, rfl⟩
      rw [nesting_cons, nesting_nil, Int.add_zero, ← Yard.exists_step_iff ht, hstep] at hfirst
      obtain ⟨y', hy'⟩ := hfirst
      cases hy'
    | ok z =>
      have hcount := Yard.openCount_step hstep
      show (∃ y', z.run ts = .ok y') ↔ _
      rw [ih hrest]
      constructor
      · intro h us hus
        rcases List.prefix_cons_iff.1 hus with rfl | ⟨vs, rfl, hvs⟩
        · rw [nesting_nil]
          omega
        · have := h vs hvs
          rw [nesting_cons]
          omega
      · intro h vs hvs
        have := h (t :: vs) (List.prefix_cons_iff.2 (.inr ⟨vs, rfl, hvs⟩))
        rw [nesting_cons] at this
        omega

/-- Behind tokens as many parentheses wait as are open. -/
theorem Yard.openCount_run {y y' : Yard} {ts : List Token} (h : y.run ts = .ok y') :
    (openCount y'.stack : Int) = openCount y.stack + nesting ts := by
  refine run_induction (R := fun y ts y' =>
    (openCount y'.stack : Int) = openCount y.stack + nesting ts) ?_ ?_ h
  · intro y
    simp
  · intro y z y' t ts hstep hrest
    have hfirst := openCount_step hstep
    rw [nesting_cons]
    omega

/-- Tokens of the language have a program exactly if their parentheses are balanced. -/
theorem exists_ofTokens_iff {ts : List Token} (hts : ∀ name, Token.unknownOperator name ∉ ts) :
    (∃ p, Program.ofTokens ts = .ok p) ↔ Balanced ts := by
  have hrun : (∃ y, Yard.run {} ts = .ok y) ↔ ∀ us, us <+: ts → 0 ≤ nesting us := by
    simpa [openCount] using @Yard.exists_run_iff {} ts hts
  rw [balanced_iff, ← hrun, ofTokens_eq]
  cases h : Yard.run {} ts with
  | error e => simp [Except.bind]
  | ok y =>
    -- at the end as many parentheses wait as are open in the whole
    have hcount : (openCount y.stack : Int) = nesting ts := by
      simpa [openCount] using Yard.openCount_run h
    have hend : (∃ p, y.finish = .ok p) ↔ openCount y.stack = 0 := by
      rw [← isSome_drained_iff, Yard.finish]
      cases drained y.stack with
      | none => simp
      | some steps => simp
    show (∃ p, y.finish = .ok p) ↔ _
    rw [hend, ← hcount]
    simp

/-! ### The order of the terms -/

theorem termsOf_apply (ops : List Operator) :
    termsOf ((ops.map Instruction.apply).map Instruction.token) = [] := by
  rw [map_token_apply]
  induction ops with
  | nil => rfl
  | cons op ops ih => simpa using ih

/-- **A step of the pass** puts out its token if that is a term, and no other term. -/
theorem Yard.termsOf_step {y y' : Yard} {t : Token} (h : y.step t = .ok y') :
    termsOf (y'.output.map Instruction.token) =
      termsOf (y.output.map Instruction.token) ++ termsOf [t] := by
  cases steps_of_step h with
  | term output stack s => simp [Instruction.token]
  | openParen output stack => simp
  | closeParen output ops rest =>
    rw [List.map_append, termsOf_append, termsOf_apply]
    simp
  | operator output ops rest op =>
    rw [List.map_append, termsOf_append, termsOf_apply]
    simp

theorem Yard.termsOf_run {y y' : Yard} {ts : List Token} (h : y.run ts = .ok y') :
    termsOf (y'.output.map Instruction.token) =
      termsOf (y.output.map Instruction.token) ++ termsOf ts := by
  refine run_induction (R := fun y ts y' => termsOf (y'.output.map Instruction.token) =
    termsOf (y.output.map Instruction.token) ++ termsOf ts) ?_ ?_ h
  · intro y
    simp
  · intro y z y' t ts hstep hrest
    rw [hrest, termsOf_step hstep, List.append_assoc, ← termsOf_append, List.singleton_append]

/-- A program has the terms of its tokens, in their order. -/
theorem termsOf_ofTokens {ts : List Token} {p : Program} (h : Program.ofTokens ts = .ok p) :
    termsOf (p.map Instruction.token) = termsOf ts := by
  obtain ⟨y, ops, hrun, -, rfl⟩ := exists_run_of_ofTokens h
  rw [List.map_append, termsOf_append, termsOf_apply, Yard.termsOf_run hrun]
  simp

/-! ### All sequences of tokens -/

theorem isParen_of_mem_contents {ts : List Token} {t : Token} (h : t ∈ contents ts) :
    t.isParen = false := by
  simpa using (List.mem_filter.1 h).2

/-- **The tokens with a program, and what the program has of them.**  The pass over any tokens of
the language fails exactly if their parentheses are not balanced, and then for that reason.
Otherwise it gives a program without parentheses, of all other tokens, each as often as it was
there, and with the terms in the order in which they were. -/
theorem ofTokens_balanced {ts : List Token} (hts : ∀ name, Token.unknownOperator name ∉ ts) :
    (Program.ofTokens ts = .error .mismatchedParentheses ↔ ¬Balanced ts) ∧
    (Balanced ts → ∃ p, Program.ofTokens ts = .ok p ∧
      (∀ t ∈ p.map Instruction.token, t.isParen = false) ∧
      (p.map Instruction.token).Perm (ts.filter (!·.isParen)) ∧
      termsOf (p.map Instruction.token) = termsOf ts) := by
  refine ⟨?_, fun hbalanced => ?_⟩
  · rw [← exists_ofTokens_iff hts]
    cases h : Program.ofTokens ts with
    | ok p => simp
    | error err => simp [eq_mismatchedParentheses_of_known hts h]
  · obtain ⟨p, hp⟩ := (exists_ofTokens_iff hts).2 hbalanced
    have hperm : (p.map Instruction.token).Perm (contents ts) := ofTokens_perm hp
    exact ⟨p, hp, fun t ht => isParen_of_mem_contents (hperm.mem_iff.1 ht), hperm,
      termsOf_ofTokens hp⟩

/-- Operators in the wrong places, an empty pair of parentheses and two terms side by side. -/
theorem ofTokens_balanced_misplaced :
    (∀ name, Token.unknownOperator name ∉ [Token.operator .and, .term "gas", .openParen,
      .closeParen, .openParen, .term "tea", .operator .or, .closeParen, .operator .not]) ∧
    ∃ p, Program.ofTokens [.operator .and, .term "gas", .openParen, .closeParen, .openParen,
        .term "tea", .operator .or, .closeParen, .operator .not] = .ok p ∧
      termsOf (p.map Instruction.token) = ["gas", "tea"] := by
  have hts : ∀ name, Token.unknownOperator name ∉ [Token.operator .and, .term "gas", .openParen,
      .closeParen, .openParen, .term "tea", .operator .or, .closeParen, .operator .not] := by
    simp
  obtain ⟨p, hp, -, -, hterms⟩ := (ofTokens_balanced hts).2 (by decide)
  exact ⟨hts, p, hp, hterms⟩

end SpendingLedger.Query

import SpendingLedger.Proofs.Query.Grammar

/-!
# Programs and trees

The program of a tree puts the value of the tree on the stack, and a program that leaves one value
is the program of a tree.  The pass over the tokens of a query takes operators off its stack in
runs, and it loses none of them: a program has the terms and operators of its tokens.

## Main definitions

* `forest` — the programs of several trees, one behind the other.
* `Yard.run` — the yard after a sequence of tokens.
* `Yard.Steps` — what one token does to a yard.
* `Yard.held` — the tokens that are in a yard.

## Main results

* `Program.run_postorder` — the program of a tree puts the value of the tree on the stack.
* `Program.eq_postorder_of_eval` — a program that has a value is the program of a tree.
* `Yard.steps_of_step`, `Yard.run_induction` — what a step can do, and what follows for a whole run.
* `completed_append`, `completed_eq` and their likes — what each function takes off the stack.
* `ofTokens_perm` — a program has the terms and operators of its tokens.
-/

namespace SpendingLedger.Query

/-! ### Running the program of a tree -/

theorem Program.run_singleton (value : String → Except Fault Bool) (stack : List Bool)
    (i : Instruction) : Program.run value stack [i] = i.run value stack := by
  simp only [Program.run, List.foldlM_cons, List.foldlM_nil]
  exact bind_pure _

/-- An operator with two operands replaces the two values on top of the stack. -/
theorem run_apply_binary (value : String → Except Fault Bool) {op : Operator} (h : op ≠ .not)
    (a b : Bool) (stack : List Bool) :
    (Instruction.apply op).run value (b :: a :: stack) = .ok (op.value a b :: stack) := by
  cases op with
  | not => exact absurd rfl h
  | and => rfl
  | or => rfl

/-- The program of a tree puts the value of the tree on the stack. -/
theorem Program.run_postorder (value : String → Except Fault Bool) (e : Expr)
    (stack : List Bool) :
    Program.run value stack e.postorder = (e.eval value).map (· :: stack) := by
  induction e generalizing stack with
  | term s => rw [Expr.postorder, run_singleton]; rfl
  | not e ih =>
    rw [Expr.postorder, run_append, ih, Expr.eval]
    cases e.eval value with
    | error fault => rfl
    | ok b => exact run_singleton ..
  | and l r ihl ihr =>
    rw [Expr.postorder, run_append, run_append, ihl, Expr.eval]
    cases l.eval value with
    | error fault => rfl
    | ok a =>
      simp only [Except.map, Except.bind, ihr]
      cases r.eval value with
      | error fault => rfl
      | ok b => exact (run_singleton ..).trans (run_apply_binary value (by decide) ..)
  | or l r ihl ihr =>
    rw [Expr.postorder, run_append, run_append, ihl, Expr.eval]
    cases l.eval value with
    | error fault => rfl
    | ok a =>
      simp only [Except.map, Except.bind, ihr]
      cases r.eval value with
      | error fault => rfl
      | ok b => exact (run_singleton ..).trans (run_apply_binary value (by decide) ..)

/-- The value of the program of a tree is that of the tree. -/
theorem Program.eval_postorder (value : String → Except Fault Bool) (e : Expr) :
    Program.eval value e.postorder = e.eval value := by
  rw [Program.eval, run_postorder]
  cases e.eval value <;> rfl

/-! ### The trees of a program -/

/-- The programs of trees one behind the other, that of the first tree last. -/
def forest (es : List Expr) : Program := es.reverse.flatMap Expr.postorder

theorem forest_cons (e : Expr) (es : List Expr) : forest (e :: es) = forest es ++ e.postorder := by
  simp [forest]

/-- A step that succeeds makes one tree more, or one tree of those whose values it takes. -/
theorem forest_of_step {value : String → Except Fault Bool} {i : Instruction}
    {stack stack' : List Bool} (h : i.run value stack = .ok stack') {es : List Expr}
    (hlen : es.length = stack.length) :
    ∃ es' : List Expr, es'.length = stack'.length ∧ forest es' = forest es ++ [i] := by
  cases i with
  | push s =>
    simp only [Instruction.run] at h
    cases hs : value s with
    | error fault => simp [hs, Except.map] at h
    | ok b =>
      simp only [hs, Except.map, Except.ok.injEq] at h
      subst h
      exact ⟨.term s :: es, by simp [hlen], by rw [forest_cons]; rfl⟩
  | apply op =>
    match op, stack, es, hlen, h with
    | .not, b :: rest, e :: es, hlen, h =>
      cases h
      refine ⟨.not e :: es, by simpa using hlen, ?_⟩
      simp [forest_cons, Expr.postorder]
    | .and, b :: a :: rest, r :: l :: es, hlen, h =>
      cases h
      refine ⟨.and l r :: es, by simpa using hlen, ?_⟩
      simp [forest_cons, Expr.postorder]
    | .or, b :: a :: rest, r :: l :: es, hlen, h =>
      cases h
      refine ⟨.or l r :: es, by simpa using hlen, ?_⟩
      simp [forest_cons, Expr.postorder]

/-- A program that succeeds is made of the programs of trees, one for each value on the stack. -/
theorem forest_of_run {value : String → Except Fault Bool} {p : Program} {stack stack' : List Bool}
    (h : p.run value stack = .ok stack') {es : List Expr} (hlen : es.length = stack.length) :
    ∃ es' : List Expr, es'.length = stack'.length ∧ forest es' = forest es ++ p := by
  induction p generalizing stack es with
  | nil =>
    cases h
    exact ⟨es, hlen, by simp⟩
  | cons i p ih =>
    rw [← List.singleton_append, Program.run_append, Program.run_singleton] at h
    cases hi : i.run value stack with
    | error fault => simp [hi, Except.bind] at h
    | ok middle =>
      rw [hi] at h
      obtain ⟨es', hlen', hes'⟩ := forest_of_step hi hlen
      obtain ⟨es'', hlen'', hes''⟩ := ih h hlen'
      exact ⟨es'', hlen'', by rw [hes'', hes', List.append_assoc, List.singleton_append]⟩

/-- A program that has a value is the program of a tree. -/
theorem Program.eq_postorder_of_eval {value : String → Except Fault Bool} {p : Program} {b : Bool}
    (h : p.eval value = .ok b) : ∃ e : Expr, p = e.postorder := by
  rw [eval] at h
  split at h
  · cases h
  · next b' hrun =>
    obtain ⟨es, hlen, hes⟩ := @forest_of_run value p [] [b'] hrun [] rfl
    obtain ⟨e, rfl⟩ := List.length_eq_one_iff.1 hlen
    exact ⟨e, by simpa [forest] using hes.symm⟩
  · cases h

/-! ### The stack of the yard -/

/-- Operators that are completed are taken off down to the first one that is not. -/
theorem completed_append {incoming : Operator} {ops : List Operator} {stack : List Waiting}
    (hops : ∀ op ∈ ops, incoming.completes op = true)
    (hstack : ∀ op rest, stack = .operator op :: rest → incoming.completes op = false) :
    completed incoming (ops.map .operator ++ stack) = (ops.map .apply, stack) := by
  induction ops with
  | nil =>
    cases stack with
    | nil => rfl
    | cons w rest =>
      cases w with
      | openParen => rfl
      | operator op => simp [completed, hstack op rest rfl]
  | cons op ops ih =>
    have hop : incoming.completes op = true := hops op (by simp)
    simp [completed, hop, ih fun o ho => hops o (by simp [ho])]

/-- A closing parenthesis takes all operators off down to its opening one. -/
theorem closed_append (ops : List Operator) (stack : List Waiting) :
    closed (ops.map .operator ++ .openParen :: stack) = some (ops.map .apply, stack) := by
  induction ops with
  | nil => rfl
  | cons op ops ih => simp [closed, ih]

/-- The end of the tokens takes all operators off. -/
theorem drained_operators (ops : List Operator) :
    drained (ops.map .operator) = some (ops.map .apply) := by
  induction ops with
  | nil => rfl
  | cons op ops ih => simp [drained, ih]

/-- What is completed is a run of operators on top of the stack. -/
theorem completed_eq {incoming : Operator} {stack rest : List Waiting} {steps : Program}
    (h : completed incoming stack = (steps, rest)) :
    ∃ ops : List Operator, steps = ops.map .apply ∧ stack = ops.map .operator ++ rest := by
  induction stack generalizing steps with
  | nil =>
    cases h
    exact ⟨[], rfl, rfl⟩
  | cons w stack ih =>
    cases w with
    | openParen =>
      cases h
      exact ⟨[], rfl, rfl⟩
    | operator op =>
      rw [completed] at h
      split at h
      · cases hc : completed incoming stack with
        | mk steps' rest' =>
          rw [hc] at h
          cases h
          obtain ⟨ops, hsteps, hstack⟩ := ih hc
          exact ⟨op :: ops, by simp [hsteps], by simp [hstack]⟩
      · cases h
        exact ⟨[], rfl, rfl⟩

/-- What is closed is a run of operators above an opening parenthesis. -/
theorem closed_eq {stack rest : List Waiting} {steps : Program}
    (h : closed stack = some (steps, rest)) :
    ∃ ops : List Operator, steps = ops.map .apply ∧
      stack = ops.map .operator ++ .openParen :: rest := by
  induction stack generalizing steps with
  | nil => cases h
  | cons w stack ih =>
    cases w with
    | openParen =>
      cases h
      exact ⟨[], rfl, rfl⟩
    | operator op =>
      simp only [closed, Option.map_eq_some_iff, Prod.mk.injEq, Prod.exists] at h
      obtain ⟨steps', rest', hc, rfl, rfl⟩ := h
      obtain ⟨ops, hsteps, hstack⟩ := ih hc
      exact ⟨op :: ops, by simp [hsteps], by simp [hstack]⟩

/-- What is drained is a stack of operators. -/
theorem drained_eq {stack : List Waiting} {steps : Program} (h : drained stack = some steps) :
    ∃ ops : List Operator, steps = ops.map .apply ∧ stack = ops.map .operator := by
  induction stack generalizing steps with
  | nil =>
    cases h
    exact ⟨[], rfl, rfl⟩
  | cons w stack ih =>
    cases w with
    | openParen => cases h
    | operator op =>
      simp only [drained, Option.map_eq_some_iff] at h
      obtain ⟨steps', hd, rfl⟩ := h
      obtain ⟨ops, hsteps, hstack⟩ := ih hd
      exact ⟨op :: ops, by simp [hsteps], by simp [hstack]⟩

/-- What a token does to a yard: a term is put out, a parenthesis waits until it is closed, and then
what waits above it is put out; an operator waits, and some of what waits above all parentheses is
put out before. -/
inductive Yard.Steps : Yard → Token → Yard → Prop
  | term (output : Program) (stack : List Waiting) (s : String) :
    Steps ⟨output, stack⟩ (.term s) ⟨output ++ [.push s], stack⟩
  | openParen (output : Program) (stack : List Waiting) :
    Steps ⟨output, stack⟩ .openParen ⟨output, .openParen :: stack⟩
  | closeParen (output : Program) (ops : List Operator) (rest : List Waiting) :
    Steps ⟨output, ops.map .operator ++ .openParen :: rest⟩ .closeParen
      ⟨output ++ ops.map .apply, rest⟩
  | operator (output : Program) (ops : List Operator) (rest : List Waiting) (op : Operator) :
    Steps ⟨output, ops.map .operator ++ rest⟩ (.operator op)
      ⟨output ++ ops.map .apply, .operator op :: rest⟩

/-- **All that a step of the pass can do.** -/
theorem Yard.steps_of_step {y y' : Yard} {t : Token} (h : y.step t = .ok y') : Steps y t y' := by
  obtain ⟨output, stack⟩ := y
  cases t with
  | term s =>
    cases h
    exact .term output stack s
  | openParen =>
    cases h
    exact .openParen output stack
  | closeParen =>
    simp only [step] at h
    cases hc : closed stack with
    | none => simp [hc] at h
    | some r =>
      obtain ⟨steps, rest⟩ := r
      obtain ⟨ops, rfl, rfl⟩ := closed_eq hc
      simp only [hc, Except.ok.injEq] at h
      subst h
      exact .closeParen output ops rest
  | operator op =>
    simp only [step] at h
    cases hc : completed op stack with
    | mk steps rest =>
      obtain ⟨ops, rfl, rfl⟩ := completed_eq hc
      simp only [hc, Except.ok.injEq] at h
      subst h
      exact .operator output ops rest op
  | unknownOperator name => cases h

/-! ### The yard after several tokens -/

/-- The yard after a sequence of tokens. -/
def Yard.run (y : Yard) (tokens : List Token) : Except QueryError Yard :=
  tokens.foldlM Yard.step y

@[simp] theorem Yard.run_nil (y : Yard) : y.run [] = .ok y := rfl

theorem Yard.run_cons (y : Yard) (t : Token) (ts : List Token) :
    y.run (t :: ts) = (y.step t).bind fun y' => y'.run ts := rfl

theorem Yard.run_append (y : Yard) (ts us : List Token) :
    y.run (ts ++ us) = (y.run ts).bind fun y' => y'.run us := by
  rw [run, List.foldlM_append]
  rfl

/-- What holds of no tokens, and of one more token in front if its step succeeds, holds of every
pass that succeeds. -/
theorem Yard.run_induction {R : Yard → List Token → Yard → Prop} (nil : ∀ y, R y [] y)
    (cons : ∀ {y z y' : Yard} {t : Token} {ts : List Token},
      y.step t = .ok z → R z ts y' → R y (t :: ts) y')
    {y y' : Yard} {ts : List Token} (h : y.run ts = .ok y') : R y ts y' := by
  induction ts generalizing y with
  | nil =>
    cases h
    exact nil _
  | cons t ts ih =>
    rw [run_cons] at h
    cases hs : y.step t with
    | error e => simp [hs, Except.bind] at h
    | ok z =>
      rw [hs] at h
      exact cons hs (ih h)

/-- The program of tokens is what the pass over them has put out, and what waits at its end. -/
theorem ofTokens_eq (tokens : List Token) :
    Program.ofTokens tokens = (Yard.run {} tokens).bind Yard.finish := rfl

/-- A program comes from a pass that succeeds, at whose end no parenthesis waits. -/
theorem exists_run_of_ofTokens {ts : List Token} {p : Program}
    (h : Program.ofTokens ts = .ok p) :
    ∃ (y : Yard) (ops : List Operator), Yard.run {} ts = .ok y ∧
      y.stack = ops.map .operator ∧ p = y.output ++ ops.map .apply := by
  rw [ofTokens_eq] at h
  cases hr : Yard.run {} ts with
  | error e => simp [hr, Except.bind] at h
  | ok y =>
    simp only [hr, Except.bind, Yard.finish] at h
    cases hd : drained y.stack with
    | none => simp [hd] at h
    | some steps =>
      obtain ⟨ops, rfl, hstack⟩ := drained_eq hd
      simp only [hd, Except.ok.injEq] at h
      exact ⟨y, ops, rfl, hstack, h.symm⟩

/-! ### Nothing is lost on the way to a program -/

/-- Whether a token is a parenthesis. -/
def Token.isParen : Token → Bool
  | .openParen => true
  | .closeParen => true
  | _ => false

/-- The tokens that are no parentheses. -/
def contents (tokens : List Token) : List Token := tokens.filter (!·.isParen)

/-- The operators that wait on a stack. -/
def pending : List Waiting → List Token
  | [] => []
  | .openParen :: stack => pending stack
  | .operator op :: stack => .operator op :: pending stack

/-- The tokens in a yard, parentheses apart. -/
def Yard.held (y : Yard) : List Token := y.output.map Instruction.token ++ pending y.stack

@[simp] theorem pending_openParen (stack : List Waiting) :
    pending (.openParen :: stack) = pending stack := rfl

@[simp] theorem pending_operator (op : Operator) (stack : List Waiting) :
    pending (.operator op :: stack) = .operator op :: pending stack := rfl

theorem pending_append (ops : List Operator) (stack : List Waiting) :
    pending (ops.map .operator ++ stack) = ops.map .operator ++ pending stack := by
  induction ops with
  | nil => rfl
  | cons op ops ih => simp [ih]

theorem map_token_apply (ops : List Operator) :
    (ops.map Instruction.apply).map Instruction.token = ops.map .operator := by
  rw [List.map_map]
  rfl

/-- One step of the pass adds its token to what the yard holds, unless that is a parenthesis. -/
theorem Yard.held_step {y y' : Yard} {t : Token} (h : y.step t = .ok y') :
    y'.held.Perm (y.held ++ contents [t]) := by
  cases steps_of_step h with
  | term output stack s =>
    simp only [held, List.map_append, List.append_assoc]
    exact List.perm_append_comm.append_left _
  | openParen output stack => simp [held, contents, Token.isParen]
  | closeParen output ops rest =>
    rw [held, held, List.map_append, map_token_apply, pending_append]
    simp [contents, Token.isParen]
  | operator output ops rest op =>
    rw [held, held, List.map_append, map_token_apply, pending_append]
    simp only [pending_operator, List.append_assoc]
    exact ((List.perm_append_singleton _ _).symm.append_left _).append_left _

/-- The pass adds its tokens to what the yard holds, parentheses apart. -/
theorem Yard.held_run {y y' : Yard} {ts : List Token} (h : y.run ts = .ok y') :
    y'.held.Perm (y.held ++ contents ts) := by
  refine run_induction (R := fun y ts y' => y'.held.Perm (y.held ++ contents ts)) ?_ ?_ h
  · intro y
    simp [contents]
  · intro y z y' t ts hs hrest
    have hsplit : contents (t :: ts) = contents [t] ++ contents ts := by
      rw [contents, contents, contents, ← List.filter_append]
      rfl
    rw [hsplit, ← List.append_assoc]
    exact hrest.trans ((held_step hs).append_right _)

/-- A program has the terms and operators of its tokens, each as often as these have it. -/
theorem ofTokens_perm {ts : List Token} {p : Program} (h : Program.ofTokens ts = .ok p) :
    (p.map Instruction.token).Perm (contents ts) := by
  obtain ⟨y, ops, hrun, hstack, rfl⟩ := exists_run_of_ofTokens h
  have hheld := Yard.held_run hrun
  rw [Yard.held, hstack, ← List.append_nil (ops.map Waiting.operator), pending_append,
    ← map_token_apply, pending, List.append_nil, ← List.map_append] at hheld
  exact hheld

end SpendingLedger.Query

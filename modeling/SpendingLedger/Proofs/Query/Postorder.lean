import SpendingLedger.Proofs.Query.Acceptance

/-!
# Programs with a value

A program can be read from its end in one way only.  Its last step is a term, or an operator; what
ends in front of an operator is its right operand, and what ends in front of that the left one.  So
a program is the postorder of one tree at most, and the programs of trees are those that have a
value: a stack that is too short for an operator, or that holds several values at the end, is an
error of structure.

## Main definitions

* `Expr.root`, `Expr.operands` — the last step of the program of a tree, and the steps before it.

## Main results

* `postorder_append_inj` — **a program ends in the programs of trees in one way only.**
* `holds_ok_iff_postorder` — **the programs with a value, and the value.**
-/

namespace SpendingLedger.Query

/-! ### Reading a program from its end -/

namespace Expr

/-- The last step of the program of a tree. -/
def root : Expr → Instruction
  | .term s => .push s
  | .not _ => .apply .not
  | .and _ _ => .apply .and
  | .or _ _ => .apply .or

/-- The steps of the program of a tree that stand before the last one. -/
def operands : Expr → Program
  | .term _ => []
  | .not e => e.postorder
  | .and l r => l.postorder ++ r.postorder
  | .or l r => l.postorder ++ r.postorder

theorem postorder_eq (e : Expr) : e.postorder = e.operands ++ [e.root] := by
  cases e <;> rfl

/-- Programs that end in the programs of two trees have the last step of these in common. -/
theorem operands_append_inj {e e' : Expr} {p p' : Program}
    (h : p ++ e.postorder = p' ++ e'.postorder) :
    p ++ e.operands = p' ++ e'.operands ∧ e.root = e'.root := by
  rw [postorder_eq, postorder_eq, ← List.append_assoc, ← List.append_assoc] at h
  obtain ⟨hfront, hlast⟩ := List.append_inj' h rfl
  exact ⟨hfront, List.singleton_inj.1 hlast⟩

end Expr

/-- **A program ends in the programs of trees in one way only.** -/
theorem postorder_append_inj {e e' : Expr} {p p' : Program}
    (h : p ++ e.postorder = p' ++ e'.postorder) : p = p' ∧ e = e' := by
  -- behind any program, so that the operands of the last operator can be taken off one by one
  induction e generalizing e' p p' with
  | term s =>
    obtain ⟨hfront, hroot⟩ := Expr.operands_append_inj h
    cases e' with
    | term s' =>
      cases hroot
      exact ⟨by simpa [Expr.operands] using hfront, rfl⟩
    | _ => cases hroot
  | not e ih =>
    obtain ⟨hfront, hroot⟩ := Expr.operands_append_inj h
    cases e' with
    | not e' =>
      obtain ⟨hp, he⟩ := ih hfront
      exact ⟨hp, congrArg Expr.not he⟩
    | _ => cases hroot
  | and l r ihl ihr =>
    obtain ⟨hfront, hroot⟩ := Expr.operands_append_inj h
    cases e' with
    | and l' r' =>
      simp only [Expr.operands, ← List.append_assoc] at hfront
      obtain ⟨hleft, hr⟩ := ihr hfront
      obtain ⟨hp, hl⟩ := ihl hleft
      exact ⟨hp, by rw [hl, hr]⟩
    | _ => cases hroot
  | or l r ihl ihr =>
    obtain ⟨hfront, hroot⟩ := Expr.operands_append_inj h
    cases e' with
    | or l' r' =>
      simp only [Expr.operands, ← List.append_assoc] at hfront
      obtain ⟨hleft, hr⟩ := ihr hfront
      obtain ⟨hp, hl⟩ := ihl hleft
      exact ⟨hp, by rw [hl, hr]⟩
    | _ => cases hroot

/-- Two trees with one program are one tree. -/
theorem postorder_inj {e e' : Expr} (h : e.postorder = e'.postorder) : e = e' :=
  (@postorder_append_inj e e' [] [] h).2

/-! ### The value of a program -/

/-- A program whose terms have values has the value of its tree. -/
theorem eval_eq_ok_iff {value : String → Except Fault Bool} {truths : String → Bool} {p : Program}
    (hp : ∀ s ∈ termsOf (p.map Instruction.token), value s = .ok (truths s)) {b : Bool} :
    p.eval value = .ok b ↔ ∃ e : Expr, p = e.postorder ∧ e.truth truths = b := by
  have htree : ∀ e : Expr, p = e.postorder → p.eval value = .ok (e.truth truths) := by
    rintro e rfl
    rw [Program.eval_postorder]
    exact Expr.eval_of_terms fun s hs => hp s (Expr.termsOf_postorder e ▸ hs)
  constructor
  · intro h
    obtain ⟨e, he⟩ := Program.eq_postorder_of_eval h
    exact ⟨e, he, Except.ok.inj ((htree e he).symm.trans h)⟩
  · rintro ⟨e, he, rfl⟩
    exact htree e he

/-- **The programs with a value, and the value.**  Where every term of a program has a value for a
transaction, the transaction satisfies the program or not exactly if the program is the postorder of
a tree.  That tree is the only one, and its truth value decides.  Any other program has an error of
structure. -/
theorem holds_ok_iff_postorder {today : Date} {q : CompiledQuery} {t : Transaction}
    {truths : String → Bool}
    (hterms : ∀ s ∈ termsOf (q.program.map Instruction.token),
      evalTerm today s t = .ok (truths s)) :
    (∀ b, q.holds today t = .ok b ↔ ∃ e : Expr, q.program = e.postorder ∧ e.truth truths = b) ∧
    (∀ e e' : Expr, q.program = e.postorder → q.program = e'.postorder → e = e') ∧
    ((∀ e : Expr, q.program ≠ e.postorder) →
      ∃ fault, q.holds today t = .error (.invalid fault) ∧
        (QueryError.invalid fault).isStructural = true) := by
  refine ⟨fun b => ?_, fun e e' he he' => postorder_inj (he.symm.trans he'), fun hnone => ?_⟩
  · rw [← eval_eq_ok_iff hterms]
    cases h : q.program.eval fun term => evalTerm today term t with
    | ok b' =>
      rw [holds_of_eval h]
      simp
    | error fault =>
      rw [holds_of_eval_error h]
      simp
  · cases h : q.program.eval fun term => evalTerm today term t with
    | ok b =>
      obtain ⟨e, he⟩ := Program.eq_postorder_of_eval h
      exact absurd he (hnone e)
    | error fault =>
      exact ⟨fault, holds_of_eval_error h, isStructural_of_eval (fun s hs => ⟨_, hterms s hs⟩) h⟩

/-- A program of a conjunction with a negation, for a transaction that has the first of its words
and not the second. -/
theorem holds_ok_iff_postorder_negation :
    (∀ s ∈ termsOf ([Instruction.push "gas", .push "tea", .apply .not, .apply .and].map
      Instruction.token), evalTerm ⟨2025, 7, 31, by decide⟩ s
        { id := "1", date := "2025-01-31", description := some "Gas", amount := .zero } =
          .ok (s == "gas")) ∧
    CompiledQuery.holds ⟨2025, 7, 31, by decide⟩
      ⟨"gas AND NOT tea", [.push "gas", .push "tea", .apply .not, .apply .and]⟩
      { id := "1", date := "2025-01-31", description := some "Gas", amount := .zero } =
        .ok true := by
  have hterms : ∀ s ∈ termsOf ([Instruction.push "gas", .push "tea", .apply .not,
      .apply .and].map Instruction.token), evalTerm ⟨2025, 7, 31, by decide⟩ s
        { id := "1", date := "2025-01-31", description := some "Gas", amount := .zero } =
          .ok (s == "gas") := by
    simp only [List.map_cons, List.map_nil, Instruction.token, termsOf_term, termsOf_operator,
      termsOf_nil, List.forall_mem_cons]
    exact ⟨by rfl, by rfl, by simp⟩
  refine ⟨hterms, ((@holds_ok_iff_postorder _ ⟨"gas AND NOT tea", _⟩ _ _ hterms).1 true).2 ?_⟩
  exact ⟨.and (.term "gas") (.not (.term "tea")), rfl, rfl⟩

end SpendingLedger.Query

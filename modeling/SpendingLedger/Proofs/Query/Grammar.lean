import SpendingLedger.Query.Filter

/-!
# The grammar of queries

A well-formed query is a disjunction of conjunctions of negated or plain operands, and an operand is
a term or a disjunction between parentheses.  Rows of `AND` and of `OR` group from the left.  A
derivation of a sequence of tokens gives the tree of its condition, and the tree has a truth value
once each of its terms has one.

## Main definitions

* `Expr` — the tree of a condition, with `Expr.terms`, `Expr.truth` and `Expr.postorder`.
* `Expr.eval` — the value of a tree whose terms may have none, terms taken from left to right.
* `Rank`, `Derives` — the three ranks of the grammar, and its derivations.
* `termsOf` — the terms among tokens.

## Main results

* `Expr.eval_of_terms` — the value of a tree all of whose terms have one.
* `Expr.eval_of_leftmost` — the fault of a tree some of whose terms have none.
* `Derives.terms_eq` — a tree has the terms of its tokens, in their order.
-/

namespace SpendingLedger.Query

/-! ### Trees of conditions -/

/-- A condition made of terms by the operators. -/
inductive Expr
  | term (text : String)
  | not (operand : Expr)
  | and (left right : Expr)
  | or (left right : Expr)
  deriving DecidableEq

namespace Expr

/-- The terms of a condition, from left to right. -/
def terms : Expr → List String
  | .term s => [s]
  | .not e => e.terms
  | .and l r => l.terms ++ r.terms
  | .or l r => l.terms ++ r.terms

/-- The truth value of a condition, where `value` gives that of each term. -/
def truth (value : String → Bool) : Expr → Bool
  | .term s => value s
  | .not e => !e.truth value
  | .and l r => l.truth value && r.truth value
  | .or l r => l.truth value || r.truth value

/-- The program of a condition: each operator behind its operands. -/
def postorder : Expr → Program
  | .term s => [.push s]
  | .not e => e.postorder ++ [.apply .not]
  | .and l r => l.postorder ++ r.postorder ++ [.apply .and]
  | .or l r => l.postorder ++ r.postorder ++ [.apply .or]

/-- The value of a condition whose terms may have none.  Both operands of an operator are looked at
whatever the first one gives. -/
def eval (value : String → Except Fault Bool) : Expr → Except Fault Bool
  | .term s => value s
  | .not e => (e.eval value).map (!·)
  | .and l r => (l.eval value).bind fun a => (r.eval value).map fun b => a && b
  | .or l r => (l.eval value).bind fun a => (r.eval value).map fun b => a || b

/-- The fault of a term that has no value. -/
def faultOf? (value : String → Except Fault Bool) (s : String) : Option Fault :=
  match value s with
  | .error fault => some fault
  | .ok _ => none

/-- The value of a term, false where it has none. -/
def valueOf (value : String → Except Fault Bool) (s : String) : Bool :=
  (value s).toOption.getD false

theorem faultOf?_of_ok {value : String → Except Fault Bool} {s : String} {b : Bool}
    (h : value s = .ok b) : faultOf? value s = none := by
  rw [faultOf?, h]

theorem faultOf?_of_error {value : String → Except Fault Bool} {s : String} {fault : Fault}
    (h : value s = .error fault) : faultOf? value s = some fault := by
  rw [faultOf?, h]

/-- The value of a tree is its truth value, or the first fault among its terms. -/
theorem eval_eq (value : String → Except Fault Bool) (e : Expr) :
    e.eval value = match e.terms.findSome? (faultOf? value) with
      | some fault => .error fault
      | none => .ok (e.truth (valueOf value)) := by
  induction e with
  | term s =>
    cases h : value s with
    | error fault => simp [eval, terms, faultOf?_of_error h, h]
    | ok b => simp [eval, terms, truth, valueOf, faultOf?_of_ok h, h, Except.toOption]
  | not e ih =>
    rw [eval, ih, terms, truth]
    cases e.terms.findSome? (faultOf? value) <;> rfl
  | and l r ihl ihr =>
    rw [eval, ihl, ihr, terms, truth, List.findSome?_append]
    cases l.terms.findSome? (faultOf? value) <;> cases r.terms.findSome? (faultOf? value) <;> rfl
  | or l r ihl ihr =>
    rw [eval, ihl, ihr, terms, truth, List.findSome?_append]
    cases l.terms.findSome? (faultOf? value) <;> cases r.terms.findSome? (faultOf? value) <;> rfl

theorem truth_congr {f g : String → Bool} {e : Expr} (h : ∀ s ∈ e.terms, f s = g s) :
    e.truth f = e.truth g := by
  induction e with
  | term s => exact h s (List.mem_singleton_self s)
  | not e ih => rw [truth, truth, ih h]
  | and l r ihl ihr =>
    rw [truth, truth, ihl fun s hs => h s (List.mem_append_left _ hs),
      ihr fun s hs => h s (List.mem_append_right _ hs)]
  | or l r ihl ihr =>
    rw [truth, truth, ihl fun s hs => h s (List.mem_append_left _ hs),
      ihr fun s hs => h s (List.mem_append_right _ hs)]

/-- A tree whose terms all have values has the truth value that these give. -/
theorem eval_of_terms {value : String → Except Fault Bool} {truths : String → Bool} {e : Expr}
    (h : ∀ s ∈ e.terms, value s = .ok (truths s)) : e.eval value = .ok (e.truth truths) := by
  have hfault : e.terms.findSome? (faultOf? value) = none :=
    List.findSome?_eq_none_iff.2 fun s hs => faultOf?_of_ok (h s hs)
  have htruth : e.truth (valueOf value) = e.truth truths :=
    truth_congr fun s hs => by rw [valueOf, h s hs]; rfl
  rw [eval_eq, hfault, htruth]

/-- A tree some of whose terms have no value has the fault of the leftmost of these. -/
theorem eval_of_leftmost {value : String → Except Fault Bool} {e : Expr}
    {before after : List String} {s : String} {fault : Fault}
    (hterms : e.terms = before ++ s :: after) (hbefore : ∀ r ∈ before, ∃ b, value r = .ok b)
    (hs : value s = .error fault) : e.eval value = .error fault := by
  have hnone : before.findSome? (faultOf? value) = none := by
    refine List.findSome?_eq_none_iff.2 fun r hr => ?_
    obtain ⟨b, hb⟩ := hbefore r hr
    exact faultOf?_of_ok hb
  rw [eval_eq, hterms, List.findSome?_append, hnone, List.findSome?_cons, faultOf?_of_error hs]
  rfl

end Expr

/-! ### Derivations -/

/-- The ranks of the grammar. -/
inductive Rank
  /-- Conjunctions with `OR` between them. -/
  | disjunction
  /-- Operands with `AND` between them. -/
  | conjunction
  /-- An operand behind any number of `NOT`. -/
  | operand
  deriving DecidableEq

/-- The sequences of tokens of each rank, with the trees of their conditions. -/
inductive Derives : Rank → List Token → Expr → Prop
  | term (s : String) : Derives .operand [.term s] (.term s)
  | not {ts : List Token} {e : Expr} :
    Derives .operand ts e → Derives .operand (.operator .not :: ts) (.not e)
  | group {ts : List Token} {e : Expr} :
    Derives .disjunction ts e → Derives .operand (.openParen :: (ts ++ [.closeParen])) e
  | ofOperand {ts : List Token} {e : Expr} :
    Derives .operand ts e → Derives .conjunction ts e
  | and {ts us : List Token} {l r : Expr} :
    Derives .conjunction ts l → Derives .operand us r →
      Derives .conjunction (ts ++ .operator .and :: us) (.and l r)
  | ofConjunction {ts : List Token} {e : Expr} :
    Derives .conjunction ts e → Derives .disjunction ts e
  | or {ts us : List Token} {l r : Expr} :
    Derives .disjunction ts l → Derives .conjunction us r →
      Derives .disjunction (ts ++ .operator .or :: us) (.or l r)

/-- The term that a token is. -/
def Token.term? : Token → Option String
  | .term s => some s
  | _ => none

/-- The terms among tokens, in order. -/
def termsOf (tokens : List Token) : List String := tokens.filterMap Token.term?

@[simp] theorem termsOf_nil : termsOf [] = [] := rfl

@[simp] theorem termsOf_append (ts us : List Token) :
    termsOf (ts ++ us) = termsOf ts ++ termsOf us := List.filterMap_append

@[simp] theorem termsOf_term (s : String) (ts : List Token) :
    termsOf (.term s :: ts) = s :: termsOf ts := rfl

@[simp] theorem termsOf_operator (op : Operator) (ts : List Token) :
    termsOf (.operator op :: ts) = termsOf ts := rfl

@[simp] theorem termsOf_openParen (ts : List Token) : termsOf (.openParen :: ts) = termsOf ts := rfl

@[simp] theorem termsOf_closeParen (ts : List Token) :
    termsOf (.closeParen :: ts) = termsOf ts := rfl

theorem mem_termsOf {s : String} {ts : List Token} : s ∈ termsOf ts ↔ Token.term s ∈ ts := by
  simp only [termsOf, List.mem_filterMap]
  constructor
  · rintro ⟨t, ht, hs⟩
    cases t with
    | term s' =>
      cases hs
      exact ht
    | _ => cases hs
  · intro h
    exact ⟨.term s, h, rfl⟩

/-- The program of a tree has the terms of the tree, in their order. -/
theorem Expr.termsOf_postorder (e : Expr) :
    termsOf (e.postorder.map Instruction.token) = e.terms := by
  induction e with
  | term s => rfl
  | not e ih => simpa [postorder, terms, Instruction.token] using ih
  | and l r ihl ihr => simp [postorder, terms, Instruction.token, ihl, ihr]
  | or l r ihl ihr => simp [postorder, terms, Instruction.token, ihl, ihr]

namespace Derives

variable {r : Rank} {ts : List Token} {e : Expr}

/-- A derived tree has the terms of its tokens, in their order. -/
theorem terms_eq (h : Derives r ts e) : e.terms = termsOf ts := by
  induction h with
  | term s => rfl
  | not _ ih => simpa [Expr.terms] using ih
  | group _ ih => simpa using ih
  | ofOperand _ ih => exact ih
  | and _ _ ihl ihr => simp [Expr.terms, ihl, ihr]
  | ofConjunction _ ih => exact ih
  | or _ _ ihl ihr => simp [Expr.terms, ihl, ihr]

/-- What is derived is not empty. -/
theorem ne_nil (h : Derives r ts e) : ts ≠ [] := by
  induction h with
  | ofOperand _ ih => exact ih
  | ofConjunction _ ih => exact ih
  | _ => simp

end Derives

end SpendingLedger.Query

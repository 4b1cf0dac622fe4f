import SpendingLedger.Proofs.Query.Compile
import SpendingLedger.Proofs.Query.Select
import SpendingLedger.Proofs.Query.Tokens

/-!
# Accepted queries

A query is accepted when its program leaves one value.  Where an operand stands is not looked at
while the program is made, so an operator may be written behind its operands, as in `a b AND`.  Such
a query has two operands side by side; a query without that is accepted only if it is well-formed.

The argument counts.  Without juxtaposed operands, the terms read so far outnumber the operators
with two operands by at most one behind an operand and by at most zero elsewhere, and each misplaced
operator or parenthesis costs one of that number for good.  A program that leaves one value has one
term more than such operators, so nothing was misplaced.

## Main definitions

* `juxtaposed` — whether an operand is directly followed by the beginning of another one.
* `surplus` — by how many the terms outnumber the operators with two operands.
* `Phrase`, `Opening` — parts of a query that are complete, or lack their last operand.

## Main results

* `derives_of_surplus` — tokens without juxtaposed operands, as many as a program with one value
  has, are well-formed.
* `filter_ok_iff` — **the queries that are accepted.**
-/

namespace SpendingLedger.Query

/-! ### Juxtaposed operands -/

/-- Whether an operand can end with a token. -/
def Token.endsOperand : Token → Bool
  | .term _ => true
  | .closeParen => true
  | _ => false

/-- Whether an operand can begin with a token. -/
def Token.beginsOperand : Token → Bool
  | .term _ => true
  | .openParen => true
  | .operator .not => true
  | _ => false

/-- Whether an operand is directly followed by the beginning of another one among tokens that stand
behind an operand or not. -/
def juxtaposedAfter (afterOperand : Bool) : List Token → Bool
  | [] => false
  | t :: ts => afterOperand && t.beginsOperand || juxtaposedAfter t.endsOperand ts

/-- Whether an operand is directly followed by the beginning of another one. -/
def juxtaposed (tokens : List Token) : Bool := juxtaposedAfter false tokens

/-- Behind what is derived one stands behind an operand, and nothing in it was juxtaposed. -/
theorem Derives.juxtaposedAfter_append {r : Rank} {ts : List Token} {e : Expr}
    (h : Derives r ts e) (us : List Token) :
    juxtaposedAfter false (ts ++ us) = juxtaposedAfter true us := by
  induction h generalizing us with
  | term s => rfl
  | not _ ih => exact ih us
  | group _ ih =>
    rw [List.cons_append, List.append_assoc]
    exact ih (.closeParen :: us)
  | ofOperand _ ih => exact ih us
  | and _ _ ihl ihr =>
    simp only [List.append_assoc, List.cons_append, ihl, juxtaposedAfter]
    exact ihr us
  | ofConjunction _ ih => exact ih us
  | or _ _ ihl ihr =>
    simp only [List.append_assoc, List.cons_append, ihl, juxtaposedAfter]
    exact ihr us

/-- A well-formed query has no juxtaposed operands. -/
theorem Derives.juxtaposed_eq_false {r : Rank} {ts : List Token} {e : Expr} (h : Derives r ts e) :
    juxtaposed ts = false := by
  simpa [juxtaposed, juxtaposedAfter] using h.juxtaposedAfter_append []

/-! ### Terms and operators in number -/

/-- What a token adds to the number of terms, less the operators with two operands. -/
def Token.surplus : Token → Int
  | .term _ => 1
  | .operator .and => -1
  | .operator .or => -1
  | .unknownOperator _ => -1
  | _ => 0

/-- By how many the terms outnumber the operators with two operands. -/
def surplus : List Token → Int
  | [] => 0
  | t :: ts => t.surplus + surplus ts

theorem surplus_append (ts us : List Token) : surplus (ts ++ us) = surplus ts + surplus us := by
  induction ts with
  | nil => simp [surplus]
  | cons t ts ih => simp only [List.cons_append, surplus, ih]; omega

theorem surplus_perm {ts us : List Token} (h : ts.Perm us) : surplus ts = surplus us := by
  induction h with
  | nil => rfl
  | cons t _ ih => simp only [surplus, ih]
  | swap t u ts => simp only [surplus]; omega
  | trans _ _ ih ih' => exact ih.trans ih'

/-- Parentheses do not count. -/
theorem surplus_contents (ts : List Token) : surplus (contents ts) = surplus ts := by
  induction ts with
  | nil => rfl
  | cons t ts ih =>
    cases t <;> simpa [contents, Token.isParen, surplus, Token.surplus] using ih

/-- A tree has one term more than operators with two operands. -/
theorem surplus_postorder (e : Expr) : surplus (e.postorder.map Instruction.token) = 1 := by
  induction e with
  | term s => rfl
  | not e ih => simp [Expr.postorder, surplus_append, ih, Instruction.token, surplus, Token.surplus]
  | and l r ihl ihr =>
    simp [Expr.postorder, surplus_append, ihl, ihr, Instruction.token, surplus, Token.surplus]
  | or l r ihl ihr =>
    simp [Expr.postorder, surplus_append, ihl, ihr, Instruction.token, surplus, Token.surplus]

/-- Tokens whose program is that of a tree have one term more than operators with two operands. -/
theorem surplus_of_ofTokens {ts : List Token} {e : Expr}
    (h : Program.ofTokens ts = .ok e.postorder) : surplus ts = 1 := by
  rw [← surplus_contents, ← surplus_perm (ofTokens_perm h), surplus_postorder]

/-- One behind an operand, zero elsewhere. -/
def behind (afterOperand : Bool) : Int := if afterOperand then 1 else 0

/-- Whether a token is in place behind an operand, or elsewhere. -/
def Token.fits (afterOperand : Bool) : Token → Bool
  | .closeParen => afterOperand
  | .operator .and => afterOperand
  | .operator .or => afterOperand
  | .unknownOperator _ => afterOperand
  | _ => !afterOperand

/-- A token that makes no operands juxtaposed leaves the surplus within its bound, and reaches the
bound only where it is in place. -/
theorem Token.surplus_le {afterOperand : Bool} {t : Token}
    (h : (afterOperand && t.beginsOperand) = false) :
    t.surplus + behind afterOperand ≤ behind t.endsOperand ∧
      (t.surplus + behind afterOperand = behind t.endsOperand → t.fits afterOperand = true) := by
  cases t with
  | operator op =>
    cases op <;> cases afterOperand <;>
      simp_all [surplus, endsOperand, beginsOperand, behind, fits]
  | _ => cases afterOperand <;> simp_all [surplus, endsOperand, beginsOperand, behind, fits]

/-- Tokens without juxtaposed operands never have too many terms. -/
theorem surplus_le {afterOperand : Bool} {ts : List Token}
    (h : juxtaposedAfter afterOperand ts = false) : surplus ts + behind afterOperand ≤ 1 := by
  induction ts generalizing afterOperand with
  | nil => cases afterOperand <;> decide
  | cons t ts ih =>
    simp only [juxtaposedAfter, Bool.or_eq_false_iff] at h
    have hstep := (Token.surplus_le h.1).1
    have hrest := ih h.2
    simp only [surplus]
    omega

/-- Of tokens without juxtaposed operands that have enough terms the first one is in place, and the
others have enough terms. -/
theorem fits_of_surplus {afterOperand : Bool} {t : Token} {ts : List Token}
    (h : juxtaposedAfter afterOperand (t :: ts) = false)
    (hsurplus : surplus (t :: ts) + behind afterOperand = 1) :
    t.fits afterOperand = true ∧ juxtaposedAfter t.endsOperand ts = false ∧
      surplus ts + behind t.endsOperand = 1 := by
  simp only [juxtaposedAfter, Bool.or_eq_false_iff] at h
  obtain ⟨hstep, hfits⟩ := Token.surplus_le h.1
  have hrest := surplus_le h.2
  simp only [surplus] at hsurplus
  exact ⟨hfits (by omega), h.2, by omega⟩

/-! ### Parts of a query -/

/-- A part that is complete: a conjunction, or one behind a disjunction and `OR`. -/
def Phrase (ts : List Token) : Prop :=
  (∃ e, Derives .conjunction ts e) ∨
    ∃ us vs, ts = us ++ .operator .or :: vs ∧ (∃ e, Derives .disjunction us e) ∧
      ∃ e, Derives .conjunction vs e

/-- A part that any operand completes. -/
def Opening (ts : List Token) : Prop :=
  ∀ us e, Derives .operand us e → Phrase (ts ++ us)

theorem Phrase.derives {ts : List Token} (h : Phrase ts) : ∃ e, Derives .disjunction ts e := by
  rcases h with ⟨e, he⟩ | ⟨us, vs, rfl, ⟨l, hl⟩, r, hr⟩
  · exact ⟨e, .ofConjunction he⟩
  · exact ⟨.or l r, .or hl hr⟩

theorem opening_nil : Opening [] := fun _ e he => .inl ⟨e, .ofOperand he⟩

theorem Opening.not {ts : List Token} (h : Opening ts) : Opening (ts ++ [.operator .not]) := by
  intro us e he
  simpa using h (.operator .not :: us) (.not e) (.not he)

theorem Phrase.and {ts : List Token} (h : Phrase ts) : Opening (ts ++ [.operator .and]) := by
  intro us e he
  rw [List.append_assoc, List.singleton_append]
  rcases h with ⟨l, hl⟩ | ⟨os, cs, rfl, ho, r, hr⟩
  · exact .inl ⟨.and l e, .and hl he⟩
  · exact .inr ⟨os, cs ++ .operator .and :: us, by simp, ho, .and r e, .and hr he⟩

theorem Phrase.or {ts : List Token} (h : Phrase ts) : Opening (ts ++ [.operator .or]) := by
  intro us e he
  rw [List.append_assoc, List.singleton_append]
  exact .inr ⟨ts, us, rfl, h.derives, e, .ofOperand he⟩

theorem Opening.group {ts us : List Token} (h : Opening ts) (hu : Phrase us) :
    Phrase (ts ++ .openParen :: (us ++ [.closeParen])) := by
  obtain ⟨e, he⟩ := hu.derives
  exact h _ e (.group he)

/-! ### A reader with a stack of openings -/

/-- The tokens read so far: the openings before each parenthesis that is still open, the innermost
first, and the part behind the last one. -/
def readSoFar : List (List Token) → List Token → List Token
  | [], part => part
  | outer :: rest, part => readSoFar rest (outer ++ .openParen :: part)

theorem readSoFar_append (openings : List (List Token)) (part ts : List Token) :
    readSoFar openings (part ++ ts) = readSoFar openings part ++ ts := by
  induction openings generalizing part with
  | nil => rfl
  | cons outer rest ih =>
    rw [readSoFar, readSoFar, ← ih, List.append_assoc, List.cons_append]

/-- How many parentheses are open on a stack. -/
def openCount : List Waiting → Nat
  | [] => 0
  | .openParen :: stack => openCount stack + 1
  | .operator _ :: stack => openCount stack

theorem openCount_append (ops : List Operator) (stack : List Waiting) :
    openCount (ops.map .operator ++ stack) = openCount stack := by
  induction ops with
  | nil => rfl
  | cons op ops ih => exact ih

/-- By how many parentheses more are open behind a token. -/
def Token.nesting : Token → Int
  | .openParen => 1
  | .closeParen => -1
  | _ => 0

theorem Yard.openCount_step {y y' : Yard} {t : Token} (h : y.step t = .ok y') :
    (openCount y'.stack : Int) = openCount y.stack + t.nesting := by
  cases steps_of_step h with
  | term output stack s => simp [Token.nesting]
  | openParen output stack => simp [Token.nesting, openCount]
  | closeParen output ops rest =>
    have hcount : openCount (ops.map .operator ++ .openParen :: rest) = openCount rest + 1 :=
      openCount_append ops _
    rw [hcount, Token.nesting]
    dsimp only
    omega
  | operator output ops rest op => simp [openCount_append, openCount, Token.nesting]

/-- What a reader that stands behind an operand, or elsewhere, knows of the part it reads. -/
def Reading (afterOperand : Bool) (part : List Token) : Prop :=
  if afterOperand then Phrase part else Opening part

/-- **A step of the reader.**  A token in place extends the part that is read, begins a part, or
completes one and the opening before it. -/
theorem exists_reading_step {t : Token} {openings : List (List Token)} {part : List Token}
    {afterOperand : Bool} (hfits : t.fits afterOperand = true)
    (hknown : ∀ name, t ≠ .unknownOperator name) (hcount : 0 ≤ openings.length + t.nesting)
    (hpart : Reading afterOperand part) (hopenings : ∀ o ∈ openings, Opening o) :
    ∃ openings' part', readSoFar openings' part' = readSoFar openings part ++ [t] ∧
      (openings'.length : Int) = openings.length + t.nesting ∧
      Reading t.endsOperand part' ∧ ∀ o ∈ openings', Opening o := by
  -- a token that opens and closes nothing is read behind the part
  have extend : t.nesting = 0 → Reading t.endsOperand (part ++ [t]) →
      ∃ openings' part', readSoFar openings' part' = readSoFar openings part ++ [t] ∧
        (openings'.length : Int) = openings.length + t.nesting ∧
        Reading t.endsOperand part' ∧ ∀ o ∈ openings', Opening o := by
    intro hzero hnext
    exact ⟨openings, part ++ [t], readSoFar_append openings part [t], by omega, hnext, hopenings⟩
  cases t with
  | term s =>
    obtain rfl : afterOperand = false := by simpa [Token.fits] using hfits
    exact extend rfl (hpart [.term s] (.term s) (.term s))
  | operator op =>
    cases op with
    | not =>
      obtain rfl : afterOperand = false := by simpa [Token.fits] using hfits
      exact extend rfl (Opening.not hpart)
    | and =>
      obtain rfl : afterOperand = true := hfits
      exact extend rfl (Phrase.and hpart)
    | or =>
      obtain rfl : afterOperand = true := hfits
      exact extend rfl (Phrase.or hpart)
  | openParen =>
    obtain rfl : afterOperand = false := by simpa [Token.fits] using hfits
    refine ⟨part :: openings, [], ?_, rfl, opening_nil, ?_⟩
    · rw [readSoFar, readSoFar_append]
    · intro o ho
      rcases List.mem_cons.1 ho with rfl | ho
      · exact hpart
      · exact hopenings o ho
  | closeParen =>
    obtain rfl : afterOperand = true := hfits
    cases openings with
    | nil => cases hcount
    | cons outer openings =>
      have hclosed : Reading true (outer ++ .openParen :: (part ++ [.closeParen])) :=
        Opening.group (hopenings outer List.mem_cons_self) hpart
      refine ⟨openings, _, ?_, ?_, hclosed, fun o ho => hopenings o (List.mem_cons_of_mem _ ho)⟩
      · rw [readSoFar, ← readSoFar_append, List.append_assoc, List.cons_append]
      · rw [List.length_cons, Token.nesting]
        omega
  | unknownOperator name => exact absurd rfl (hknown name)

/-- **The reader's invariant.**  Tokens that fit together lead from a part and the openings around
it to a well-formed query, if the pass over them closes all parentheses. -/
theorem derives_of_run {ts : List Token} {y y' : Yard} {openings : List (List Token)}
    {part : List Token} {afterOperand : Bool} (hrun : y.run ts = .ok y')
    (hend : openCount y'.stack = 0) (hcount : openCount y.stack = openings.length)
    (hjuxtaposed : juxtaposedAfter afterOperand ts = false)
    (hsurplus : surplus ts + behind afterOperand = 1) (hpart : Reading afterOperand part)
    (hopenings : ∀ o ∈ openings, Opening o) :
    ∃ e, Derives .disjunction (readSoFar openings part ++ ts) e := by
  induction ts generalizing y openings part afterOperand with
  | nil =>
    cases hrun
    have hafter : afterOperand = true := by
      cases afterOperand with
      | true => rfl
      | false => simp [surplus, behind] at hsurplus
    subst hafter
    have hnil : openings = [] := List.eq_nil_of_length_eq_zero (hcount ▸ hend)
    subst hnil
    simpa [readSoFar] using Phrase.derives hpart
  | cons t ts ih =>
    obtain ⟨hfits, hrest, hsurplus'⟩ := fits_of_surplus hjuxtaposed hsurplus
    rw [Yard.run_cons] at hrun
    cases hstep : y.step t with
    | error e => simp [hstep, Except.bind] at hrun
    | ok z =>
      rw [hstep] at hrun
      have hknown : ∀ name, t ≠ .unknownOperator name := by
        rintro name rfl
        cases hstep
      -- the stack has an open parenthesis for each opening, so one that is closed was opened
      have hnesting := Yard.openCount_step hstep
      obtain ⟨openings', part', hread, hlength, hpart', hopenings'⟩ :=
        exists_reading_step hfits hknown (by omega) hpart hopenings
      have h := ih hrun (by omega) hrest hsurplus' hpart' hopenings'
      rwa [hread, List.append_assoc] at h

/-- Tokens without juxtaposed operands that have a program and enough terms are well-formed. -/
theorem derives_of_surplus {ts : List Token} {p : Program} (hp : Program.ofTokens ts = .ok p)
    (hjuxtaposed : juxtaposed ts = false) (hsurplus : surplus ts = 1) :
    ∃ e, Derives .disjunction ts e := by
  obtain ⟨y, ops, hrun, hstack, -⟩ := exists_run_of_ofTokens hp
  have hend : openCount y.stack = 0 := by
    rw [hstack, ← List.append_nil (ops.map Waiting.operator), openCount_append]
    rfl
  have hsurplus' : surplus ts + behind false = 1 := (Int.add_zero _).trans hsurplus
  exact @derives_of_run ts {} y [] [] false hrun hend rfl hjuxtaposed hsurplus' opening_nil
    (by simp)

/-! ### Errors of structure -/

/-- Whether an error is one of the structure of a query, and not of one of its terms. -/
def QueryError.isStructural : QueryError → Bool
  | .mismatchedParentheses => true
  | .invalid .missingOperand => true
  | .invalid (.missingOperands _) => true
  | .invalid .noSingleCondition => true
  | _ => false

/-- The pass over tokens of the language fails at a parenthesis only. -/
theorem eq_mismatchedParentheses_of_run {ts : List Token} {y : Yard} {err : QueryError}
    (hts : ∀ name, Token.unknownOperator name ∉ ts) (h : y.run ts = .error err) :
    err = .mismatchedParentheses := by
  induction ts generalizing y with
  | nil => cases h
  | cons t ts ih =>
    rw [Yard.run_cons] at h
    cases hstep : y.step t with
    | ok z =>
      rw [hstep] at h
      exact ih (fun name hmem => hts name (List.mem_cons_of_mem _ hmem)) h
    | error e =>
      obtain rfl : e = err := by simpa [hstep, Except.bind] using h
      cases t with
      | closeParen =>
        simp only [Yard.step] at hstep
        split at hstep
        · cases hstep
          rfl
        · cases hstep
      | unknownOperator name => exact absurd (List.mem_cons_self ..) (hts name)
      | _ => cases hstep

/-- Tokens of the language without a program have parentheses that do not match. -/
theorem eq_mismatchedParentheses_of_known {ts : List Token} {err : QueryError}
    (hts : ∀ name, Token.unknownOperator name ∉ ts) (h : Program.ofTokens ts = .error err) :
    err = .mismatchedParentheses := by
  rw [ofTokens_eq] at h
  cases hrun : Yard.run {} ts with
  | error e =>
    have he := eq_mismatchedParentheses_of_run hts hrun
    simpa [hrun, Except.bind, he, eq_comm] using h
  | ok y =>
    simp only [hrun, Except.bind, Yard.finish] at h
    split at h
    · cases h
      rfl
    · cases h

theorem eq_mismatchedParentheses_of_ofTokens {query : String} {err : QueryError}
    (h : Program.ofTokens (tokenize query) = .error err) : err = .mismatchedParentheses :=
  eq_mismatchedParentheses_of_known (fun name => unknownOperator_notMem_tokensFrom name _) h

/-- A program whose terms have values fails only for want of operands. -/
theorem isStructural_of_run {value : String → Except Fault Bool} {p : Program} {stack : List Bool}
    {fault : Fault} (hp : ∀ s ∈ termsOf (p.map Instruction.token), ∃ b, value s = .ok b)
    (h : p.run value stack = .error fault) : (QueryError.invalid fault).isStructural = true := by
  induction p generalizing stack with
  | nil => cases h
  | cons i p ih =>
    rw [← List.singleton_append, Program.run_append, Program.run_singleton] at h
    cases hi : i.run value stack with
    | ok stack' =>
      rw [hi] at h
      refine ih (fun s hs => hp s ?_) h
      rw [List.map_cons, ← List.singleton_append, termsOf_append]
      exact List.mem_append_right _ hs
    | error e =>
      obtain rfl : e = fault := by simpa [hi, Except.bind] using h
      cases i with
      | push s =>
        obtain ⟨b, hb⟩ := hp s (by simp [Instruction.token])
        simp [Instruction.run, hb, Except.map] at hi
      | apply op =>
        rcases stack with _ | ⟨right, _ | ⟨left, rest⟩⟩
        · cases op <;> cases hi <;> rfl
        · cases op <;> cases hi <;> rfl
        · cases op <;> cases hi

/-- A program whose terms have values has a value exactly if it is the program of a tree. -/
theorem exists_eval_iff {value : String → Except Fault Bool} {p : Program}
    (hp : ∀ s ∈ termsOf (p.map Instruction.token), ∃ b, value s = .ok b) :
    (∃ b, p.eval value = .ok b) ↔ ∃ e : Expr, p = e.postorder := by
  constructor
  · rintro ⟨b, hb⟩
    exact Program.eq_postorder_of_eval hb
  · rintro ⟨e, rfl⟩
    have hterms : ∀ s ∈ e.terms, value s = .ok (Expr.valueOf value s) := by
      intro s hs
      obtain ⟨b, hb⟩ := hp s (Expr.termsOf_postorder e ▸ hs)
      rw [hb, Expr.valueOf, hb]
      rfl
    exact ⟨_, (Program.eval_postorder value e).trans (Expr.eval_of_terms hterms)⟩

theorem isStructural_of_eval {value : String → Except Fault Bool} {p : Program} {fault : Fault}
    (hp : ∀ s ∈ termsOf (p.map Instruction.token), ∃ b, value s = .ok b)
    (h : p.eval value = .error fault) : (QueryError.invalid fault).isStructural = true := by
  rw [Program.eval] at h
  split at h
  · next hrun =>
    cases h
    exact isStructural_of_run hp hrun
  · cases h
  · cases h
    rfl

/-! ### Whole searches -/

/-- The terms of a program are those of its tokens. -/
theorem mem_termsOf_program {ts : List Token} {p : Program} (h : Program.ofTokens ts = .ok p)
    {s : String} (hs : s ∈ termsOf (p.map Instruction.token)) : s ∈ termsOf ts := by
  have hmem : Token.term s ∈ contents ts := (ofTokens_perm h).mem_iff.1 (mem_termsOf.1 hs)
  exact mem_termsOf.2 (List.mem_filter.1 hmem).1

/-- The tokens whose program is that of a tree: the well-formed ones, and some with juxtaposed
operands. -/
theorem ofTokens_postorder_iff {ts : List Token} :
    (∃ e : Expr, Program.ofTokens ts = .ok e.postorder) ↔
      (∃ e, Derives .disjunction ts e) ∨
        (juxtaposed ts = true ∧ ∃ e : Expr, Program.ofTokens ts = .ok e.postorder) := by
  constructor
  · rintro ⟨e, he⟩
    cases hj : juxtaposed ts with
    | false => exact .inl (derives_of_surplus he hj (surplus_of_ofTokens he))
    | true => exact .inr ⟨rfl, e, he⟩
  · rintro (⟨e, he⟩ | ⟨-, h⟩)
    · exact ⟨e, ofTokens_of_derives he⟩
    · exact h

theorem holds_of_eval {today : Date} {q : CompiledQuery} {t : Transaction} {b : Bool}
    (h : (q.program.eval fun term => evalTerm today term t) = .ok b) :
    CompiledQuery.holds today q t = .ok b := by
  rw [CompiledQuery.holds, h]
  rfl

theorem holds_of_eval_error {today : Date} {q : CompiledQuery} {t : Transaction} {fault : Fault}
    (h : (q.program.eval fun term => evalTerm today term t) = .error fault) :
    CompiledQuery.holds today q t = .error (.invalid fault) := by
  rw [CompiledQuery.holds, h]
  rfl

/-- A transaction for which the terms of a query have values satisfies the query or not exactly if
the program of the query is that of a tree. -/
theorem exists_holds_iff {today : Date} {query : String} {p : Program} {t : Transaction}
    (hp : Program.ofTokens (tokenize query) = .ok p)
    (hterms : ∀ s ∈ termsOf (tokenize query), ∃ b, evalTerm today s t = .ok b) :
    (∃ b, CompiledQuery.holds today ⟨query, p⟩ t = .ok b) ↔ ∃ e : Expr, p = e.postorder := by
  rw [← exists_eval_iff fun s hs => hterms s (mem_termsOf_program hp hs)]
  cases h : p.eval fun term => evalTerm today term t with
  | ok b =>
    rw [@holds_of_eval _ ⟨query, p⟩ _ _ h]
    simp
  | error fault =>
    rw [@holds_of_eval_error _ ⟨query, p⟩ _ _ h]
    simp

/-- A query that is not satisfied or missed by such a transaction has an error of structure. -/
theorem isStructural_of_holds {today : Date} {query : String} {p : Program} {t : Transaction}
    {err : QueryError} (hp : Program.ofTokens (tokenize query) = .ok p)
    (hterms : ∀ s ∈ termsOf (tokenize query), ∃ b, evalTerm today s t = .ok b)
    (h : CompiledQuery.holds today ⟨query, p⟩ t = .error err) : err.isStructural = true := by
  cases he : p.eval fun term => evalTerm today term t with
  | ok b =>
    rw [@holds_of_eval _ ⟨query, p⟩ _ _ he] at h
    cases h
  | error fault =>
    rw [@holds_of_eval_error _ ⟨query, p⟩ _ _ he] at h
    cases h
    exact isStructural_of_eval (fun s hs => hterms s (mem_termsOf_program hp hs)) he

/-- A search with a query that is not blank selects by the program of the query. -/
theorem filter_eq {today : Date} {query : String} {ledger : List Transaction}
    (h : tokenize query ≠ []) :
    filter today query ledger =
      match Program.ofTokens (tokenize query) with
      | .error err => .error err
      | .ok p => select (CompiledQuery.holds today ⟨query, p⟩) ledger := by
  rw [filter, compile_eq h]
  cases Program.ofTokens (tokenize query) <;> rfl

/-- **The queries that are accepted.**  Where the terms of a query have values for all of some
transactions, a search succeeds exactly if the query is blank, or well-formed, or has juxtaposed
operands and becomes the program of a tree all the same; it fails otherwise, and always by the
structure of the query. -/
theorem filter_ok_iff {today : Date} {query : String} {ledger : List Transaction}
    (hledger : ledger ≠ [])
    (hterms : ∀ t ∈ ledger, ∀ s ∈ termsOf (tokenize query), ∃ b, evalTerm today s t = .ok b) :
    ((∃ kept, filter today query ledger = .ok kept) ↔
      tokenize query = [] ∨ (∃ e, Derives .disjunction (tokenize query) e) ∨
        (juxtaposed (tokenize query) = true ∧
          ∃ e : Expr, Program.ofTokens (tokenize query) = .ok e.postorder)) ∧
    ∀ err, filter today query ledger = .error err → err.isStructural = true := by
  obtain ⟨first, hfirst⟩ := List.exists_mem_of_ne_nil ledger hledger
  by_cases hblank : tokenize query = []
  · have hfilter : filter today query ledger = .ok ledger := by
      rw [filter, compile]
      simp [hblank]
    rw [hfilter]
    exact ⟨iff_of_true ⟨ledger, rfl⟩ (.inl hblank), fun err h => by cases h⟩
  · rw [← ofTokens_postorder_iff, filter_eq hblank]
    cases hp : Program.ofTokens (tokenize query) with
    | error err =>
      refine ⟨by simp [hblank], fun err' h => ?_⟩
      cases h
      rw [eq_mismatchedParentheses_of_ofTokens hp]
      rfl
    | ok p =>
      refine ⟨?_, fun err h => ?_⟩
      · simp only [hblank, false_or, Except.ok.injEq]
        constructor
        · rintro ⟨kept, hkept⟩
          obtain ⟨keeps, hall, -⟩ := select_eq_ok_iff.1 hkept
          exact (exists_holds_iff hp (hterms first hfirst)).1 ⟨_, hall first hfirst⟩
        · rintro ⟨e, he⟩
          exact exists_select fun t ht => (exists_holds_iff hp (hterms t ht)).2 ⟨e, he⟩
      · obtain ⟨t, ht, hfail⟩ := exists_of_select_eq_error h
        exact isStructural_of_holds hp (hterms t ht) hfail

/-- An operator may stand in a parenthesis behind its left operand. -/
theorem filter_ok_iff_operator_in_parenthesis :
    (∀ s ∈ termsOf (tokenize "gas (OR tea)"), ∃ b, evalTerm ⟨2025, 7, 31, by decide⟩ s
      { id := "1", date := "2025-01-31", description := some "Tea", amount := .zero } = .ok b) ∧
    juxtaposed (tokenize "gas (OR tea)") = true ∧
    ∃ kept, filter ⟨2025, 7, 31, by decide⟩ "gas (OR tea)"
      [{ id := "1", date := "2025-01-31", description := some "Tea", amount := .zero }] =
        .ok kept := by
  have htokens : tokenize "gas (OR tea)" =
      [.term "gas", .openParen, .operator .or, .term "tea", .closeParen] := by
    decide +kernel
  have hterms : ∀ s ∈ termsOf (tokenize "gas (OR tea)"), ∃ b, evalTerm ⟨2025, 7, 31, by decide⟩ s
      { id := "1", date := "2025-01-31", description := some "Tea", amount := .zero } = .ok b := by
    rw [htokens]
    simp only [termsOf_term, termsOf_openParen, termsOf_operator, termsOf_closeParen, termsOf_nil,
      List.forall_mem_cons]
    exact ⟨⟨false, by rfl⟩, ⟨true, by rfl⟩, by simp⟩
  have hjuxtaposed : juxtaposed (tokenize "gas (OR tea)") = true := by
    rw [htokens]
    rfl
  have hprogram : Program.ofTokens (tokenize "gas (OR tea)") =
      .ok (Expr.or (.term "gas") (.term "tea")).postorder := by
    rw [htokens]
    rfl
  refine ⟨hterms, hjuxtaposed, ?_⟩
  exact (filter_ok_iff (List.cons_ne_nil _ []) (by simpa using hterms)).1.2
    (.inr (.inr ⟨hjuxtaposed, _, hprogram⟩))

/-- A query with an operator behind both its operands is accepted and not well-formed. -/
theorem filter_ok_of_operator_behind :
    (∀ s ∈ termsOf (tokenize "gas tea AND"), ∃ b, evalTerm ⟨2025, 7, 31, by decide⟩ s
      { id := "1", date := "2025-01-31", description := some "gas tea", amount := .zero } =
        .ok b) ∧
    (∃ kept, filter ⟨2025, 7, 31, by decide⟩ "gas tea AND"
      [{ id := "1", date := "2025-01-31", description := some "gas tea", amount := .zero }] =
        .ok kept) ∧
    tokenize "gas tea AND" ≠ [] ∧ ¬ ∃ e, Derives .disjunction (tokenize "gas tea AND") e := by
  have htokens : tokenize "gas tea AND" = [.term "gas", .term "tea", .operator .and] := by
    decide +kernel
  refine ⟨?_, ⟨_, by rfl⟩, by rw [htokens]; simp, ?_⟩
  · rw [htokens]
    simp only [termsOf_term, termsOf_operator, termsOf_nil, List.forall_mem_cons]
    exact ⟨⟨true, by rfl⟩, ⟨true, by rfl⟩, by simp⟩
  · rintro ⟨e, he⟩
    have h := he.juxtaposed_eq_false
    rw [htokens] at h
    exact absurd h (by decide)

end SpendingLedger.Query

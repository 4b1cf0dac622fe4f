import Mathlib.Data.List.Forall2
import SpendingLedger.Proofs.Text.Upper
import SpendingLedger.Query.Token

/-!
# What becomes of a query as tokens

Nothing of a query but its space is lost: its tokens, one behind the other, are written by the other
characters of the query, each by its own text, which for an operator may be in letters of either
case.  A token is read back from its text, and a character that can stand in no term cuts a query in
two.  So the texts of the tokens with blanks between them have the same tokens again.

## Main definitions

* `Operator.IsWrittenBy`, `Token.IsWrittenBy` — the characters that write an operator or a token.
* `WrittenBy` — the characters that write several tokens, one behind the other.
* `Token.IsProper` — the tokens that a query can have.

## Main results

* `writtenBy_tokensFrom` — **nothing is lost but space.**
* `isProper_of_mem_tokensFrom` — what a term is made of.
* `tokensFrom_intercalate` — proper tokens are read back from their texts.
* `tokenize_laws` — the three laws together, and that a query is cut at spaces and parentheses.
-/

namespace SpendingLedger.Query

open Text (isSpace upperChars)

/-! ### Operators -/

namespace Operator

variable {op : Operator} {cs : List Char}

/-- Whether `cs` is the word of an operator in letters of either case. -/
def IsWrittenBy (op : Operator) (cs : List Char) : Prop :=
  cs.map Char.toUpper = op.text.toList

instance (op : Operator) (cs : List Char) : Decidable (op.IsWrittenBy cs) :=
  inferInstanceAs (Decidable (_ = _))

theorem ofText?_eq_some_iff {s : String} : ofText? s = some op ↔ s = op.text := by
  constructor
  · intro h
    unfold ofText? at h
    split at h
    · next hs => cases h; exact hs
    split at h
    · next hs => cases h; exact hs
    split at h
    · next hs => cases h; exact hs
    · cases h
  · rintro rfl
    exact ofText?_text op

/-- The words that are taken for an operator are its word in letters of either case, whatever else
has an upper-case form. -/
theorem ofText?_upperChars_iff :
    ofText? (String.ofList (upperChars cs)) = some op ↔ op.IsWrittenBy cs := by
  have hplain : ∀ d ∈ op.text.toList, d ∈ Text.plainCapitals :=
    List.forall_iff_forall_mem.1 (by cases op <;> decide)
  rw [ofText?_eq_some_iff, ← String.toList_inj, String.toList_ofList, Text.upperChars_eq_iff hplain,
    IsWrittenBy]

end Operator

/-! ### Single tokens -/

/-- Whether the characters `cs` write a token: they are its text, which for an operator may be in
letters of either case. -/
def Token.IsWrittenBy : Token → List Char → Prop
  | .operator op, cs => op.IsWrittenBy cs
  | token, cs => cs = token.text.toList

/-- Whether a token is one that a query can have: a term is a run of characters that can stand in
one, and no operator in letters of either case. -/
def Token.IsProper : Token → Prop
  | .term s => s ≠ "" ∧ (∀ c ∈ s.toList, isTermChar c = true) ∧
      ∀ op : Operator, ¬op.IsWrittenBy s.toList
  | .unknownOperator _ => False
  | _ => True

variable {run cs : List Char} {c : Char} {token : Token}

theorem isTermChar_iff : isTermChar c = true ↔ isSpace c = false ∧ c ≠ '(' ∧ c ≠ ')' := by
  simp [isTermChar, and_assoc]

theorem isTermChar_of_isSpace (hc : isSpace c = true) : isTermChar c = false := by
  simp [isTermChar, hc]

theorem endToken_of_isSpace (hc : isSpace c = true) : endToken c = [] := by
  have hopen : c ≠ '(' := by
    rintro rfl
    exact absurd hc (by decide)
  have hclose : c ≠ ')' := by
    rintro rfl
    exact absurd hc (by decide)
  rw [endToken, if_neg hopen, if_neg hclose]

theorem Token.ofRun_eq_operator {op : Operator} (h : op.IsWrittenBy cs) :
    ofRun cs = .operator op := by
  unfold ofRun
  rw [Operator.ofText?_upperChars_iff.2 h]

theorem Token.ofRun_eq_term (h : ∀ op : Operator, ¬op.IsWrittenBy cs) :
    ofRun cs = .term (String.ofList cs) := by
  unfold ofRun
  cases hop : Operator.ofText? (String.ofList (upperChars cs)) with
  | none => rfl
  | some op => exact absurd (Operator.ofText?_upperChars_iff.1 hop) (h op)

theorem Token.isWrittenBy_ofRun (cs : List Char) : (ofRun cs).IsWrittenBy cs := by
  by_cases h : ∃ op : Operator, op.IsWrittenBy cs
  · obtain ⟨op, hop⟩ := h
    rw [ofRun_eq_operator hop]
    exact hop
  · rw [ofRun_eq_term (not_exists.1 h)]
    exact String.toList_ofList.symm

theorem Token.isProper_ofRun (hne : cs ≠ []) (hcs : ∀ c ∈ cs, isTermChar c = true) :
    (ofRun cs).IsProper := by
  by_cases h : ∃ op : Operator, op.IsWrittenBy cs
  · obtain ⟨op, hop⟩ := h
    rw [ofRun_eq_operator hop]
    trivial
  · rw [ofRun_eq_term (not_exists.1 h)]
    refine ⟨?_, ?_, ?_⟩
    · simpa using hne
    · simpa using hcs
    · simpa using not_exists.1 h

/-! ### Nothing is lost but space -/

/-- Whether the characters `cs` write `tokens`, one behind the other. -/
def WrittenBy (tokens : List Token) (cs : List Char) : Prop :=
  ∃ parts, List.Forall₂ Token.IsWrittenBy tokens parts ∧ parts.flatten = cs

theorem writtenBy_nil : WrittenBy [] [] := ⟨[], .nil, rfl⟩

theorem writtenBy_singleton (h : token.IsWrittenBy cs) : WrittenBy [token] cs :=
  ⟨[cs], .cons h .nil, by simp⟩

theorem WrittenBy.append {tokens tokens' : List Token} {cs' : List Char}
    (h : WrittenBy tokens cs) (h' : WrittenBy tokens' cs') :
    WrittenBy (tokens ++ tokens') (cs ++ cs') := by
  obtain ⟨parts, hparts, rfl⟩ := h
  obtain ⟨parts', hparts', rfl⟩ := h'
  exact ⟨parts ++ parts', List.rel_append hparts hparts', List.flatten_append⟩

theorem writtenBy_endedRun (run : List Char) : WrittenBy (endedRun run) run.reverse := by
  cases run with
  | nil => exact writtenBy_nil
  | cons c run => exact writtenBy_singleton (Token.isWrittenBy_ofRun _)

/-- A character that ends a run is a parenthesis, which is kept, or a space. -/
theorem writtenBy_endToken (hc : isTermChar c = false) :
    WrittenBy (endToken c) ([c].filter (!isSpace ·)) := by
  by_cases hopen : c = '('
  · subst hopen
    exact writtenBy_singleton rfl
  by_cases hclose : c = ')'
  · subst hclose
    exact writtenBy_singleton rfl
  · have hspace : isSpace c = true := by
      simpa [isTermChar, hopen, hclose] using hc
    simpa [endToken_of_isSpace hspace, hspace] using writtenBy_nil

/-- **Nothing is lost but space.**  The tokens behind a run are written by the run and all other
characters that are no space. -/
theorem writtenBy_tokensFrom (run cs : List Char) :
    WrittenBy (tokensFrom run cs) (run.reverse ++ cs.filter (!isSpace ·)) := by
  induction cs generalizing run with
  | nil => simpa using writtenBy_endedRun run
  | cons c cs ih =>
    have hsplit : (c :: cs).filter (!isSpace ·) =
        [c].filter (!isSpace ·) ++ cs.filter (!isSpace ·) :=
      List.filter_append [c] cs
    rw [tokensFrom_cons, hsplit]
    split
    · next hc =>
      have hkept : [c].filter (!isSpace ·) = [c] := by
        simp [(isTermChar_iff.1 hc).1]
      have hrest := ih (c :: run)
      rwa [List.reverse_cons, List.append_assoc, ← hkept] at hrest
    · next hc =>
      rw [← List.append_assoc]
      exact ((writtenBy_endedRun run).append (writtenBy_endToken (by simpa using hc))).append
        (ih [])

/-! ### What a term is made of -/

theorem isProper_of_mem_endedRun (hrun : ∀ c ∈ run, isTermChar c = true)
    (h : token ∈ endedRun run) : token.IsProper := by
  cases run with
  | nil => cases h
  | cons c run =>
    rw [List.mem_singleton.1 h]
    refine Token.isProper_ofRun ?_ fun d hd => hrun d (List.mem_reverse.1 hd)
    exact mt List.reverse_eq_nil_iff.1 (List.cons_ne_nil c run)

theorem isProper_of_mem_endToken (h : token ∈ endToken c) : token.IsProper := by
  unfold endToken at h
  split at h
  · rw [List.mem_singleton.1 h]
    trivial
  split at h
  · rw [List.mem_singleton.1 h]
    trivial
  · cases h

/-- The tokens behind a run of characters that can stand in a term are proper ones. -/
theorem isProper_of_mem_tokensFrom (hrun : ∀ c ∈ run, isTermChar c = true)
    (h : token ∈ tokensFrom run cs) : token.IsProper := by
  induction cs generalizing run with
  | nil => exact isProper_of_mem_endedRun hrun h
  | cons c cs ih =>
    rw [tokensFrom_cons] at h
    split at h
    · next hc => exact ih (List.forall_mem_cons.2 ⟨hc, hrun⟩) h
    · rcases List.mem_append.1 h with h | h
      · rcases List.mem_append.1 h with h | h
        · exact isProper_of_mem_endedRun hrun h
        · exact isProper_of_mem_endToken h
      · exact ih (by simp) h

/-- The tokens of a text hold no operator that the language does not have. -/
theorem unknownOperator_notMem_tokensFrom (name : String) (cs : List Char) :
    Token.unknownOperator name ∉ tokensFrom [] cs := fun h =>
  isProper_of_mem_tokensFrom (by simp) h

/-! ### Reading tokens back -/

/-- A text without space and parentheses is one run. -/
theorem tokensFrom_of_forall (hcs : ∀ c ∈ cs, isTermChar c = true) (run : List Char) :
    tokensFrom run cs = endedRun (cs.reverse ++ run) := by
  induction cs generalizing run with
  | nil => rfl
  | cons c cs ih =>
    obtain ⟨hc, hcs⟩ := List.forall_mem_cons.1 hcs
    rw [tokensFrom_cons, if_pos hc, ih hcs, List.reverse_cons, List.append_assoc,
      List.singleton_append]

/-- A proper token is read back from its text. -/
theorem Token.IsProper.tokensFrom_text (h : token.IsProper) :
    tokensFrom [] token.text.toList = [token] := by
  cases token with
  | term s =>
    obtain ⟨hne, hcs, hword⟩ := h
    have hrun : s.toList.reverse ≠ [] := by simpa using hne
    rw [Token.text, tokensFrom_of_forall hcs, List.append_nil, endedRun,
      if_neg (by simpa using hrun), List.reverse_reverse, Token.ofRun_eq_term hword,
      String.ofList_toList]
  | operator op => cases op <;> decide +kernel
  | unknownOperator name => exact h.elim
  | openParen => decide
  | closeParen => decide

/-- Proper tokens are read back from their texts with blanks between them. -/
theorem tokensFrom_intercalate {tokens : List Token} (h : ∀ token ∈ tokens, token.IsProper) :
    tokensFrom [] (List.intercalate [' '] (tokens.map (·.text.toList))) = tokens := by
  induction tokens with
  | nil => rfl
  | cons token tokens ih =>
    obtain ⟨htoken, htokens⟩ := List.forall_mem_cons.1 h
    cases tokens with
    | nil =>
      rw [List.map_singleton, List.intercalate_singleton, htoken.tokensFrom_text]
    | cons other tokens =>
      have hrest := ih htokens
      rw [List.map_cons] at hrest
      rw [List.map_cons, List.map_cons, List.intercalate_cons_cons, List.append_assoc,
        List.singleton_append, tokensFrom_append_cons (by decide), htoken.tokensFrom_text, hrest]
      rfl

theorem tokenize_append_cons (hc : isTermChar c = false) (x y : String) :
    tokenize (x ++ String.singleton c ++ y) = tokenize x ++ endToken c ++ tokenize y := by
  have htext : (x ++ String.singleton c ++ y).toList = x.toList ++ c :: y.toList := by
    simp
  unfold tokenize
  rw [htext, tokensFrom_append_cons hc]

/-- **Nothing of a query is lost but its space, and what is read is read again.**  The tokens of a
query are written, one behind the other, by its characters other than space.  Each term is a run
without space and parentheses, and is no operator in letters of either case.  The texts of the
tokens with blanks between them have the same tokens.  A space cuts a query in two, and so does a
parenthesis, which is a token of its own. -/
theorem tokenize_laws :
    (∀ query : String,
      WrittenBy (tokenize query) (query.toList.filter (!isSpace ·)) ∧
      (∀ s, .term s ∈ tokenize query →
        s ≠ "" ∧ (∀ c ∈ s.toList, isSpace c = false ∧ c ≠ '(' ∧ c ≠ ')') ∧
          ∀ op : Operator, ¬op.IsWrittenBy s.toList) ∧
      tokenize (" ".intercalate ((tokenize query).map Token.text)) = tokenize query) ∧
    ∀ x y : String,
      (∀ w, isSpace w = true →
        tokenize (x ++ String.singleton w ++ y) = tokenize x ++ tokenize y) ∧
      tokenize (x ++ "(" ++ y) = tokenize x ++ [.openParen] ++ tokenize y ∧
      tokenize (x ++ ")" ++ y) = tokenize x ++ [.closeParen] ++ tokenize y := by
  have hproper : ∀ query, ∀ token ∈ tokenize query, token.IsProper := fun query token h =>
    isProper_of_mem_tokensFrom (by simp) h
  refine ⟨fun query => ⟨writtenBy_tokensFrom [] query.toList, fun s hs => ?_, ?_⟩,
    fun x y => ⟨fun w hw => ?_, ?_, ?_⟩⟩
  · obtain ⟨hne, hcs, hword⟩ := hproper query _ hs
    exact ⟨hne, fun c hc => isTermChar_iff.1 (hcs c hc), hword⟩
  · have htext : (" ".intercalate ((tokenize query).map Token.text)).toList =
        List.intercalate [' '] ((tokenize query).map (·.text.toList)) := by
      rw [String.toList_intercalate, List.map_map]
      rfl
    rw [tokenize, htext, tokensFrom_intercalate (hproper query)]
  · rw [tokenize_append_cons (isTermChar_of_isSpace hw), endToken_of_isSpace hw, List.append_nil]
  · have hopen : endToken '(' = [.openParen] := rfl
    have hchar : String.singleton '(' = "(" := by decide
    rw [← hopen, ← hchar, tokenize_append_cons (by decide)]
  · have hclose : endToken ')' = [.closeParen] := rfl
    have hchar : String.singleton ')' = ")" := by decide
    rw [← hclose, ← hchar, tokenize_append_cons (by decide)]

/-- A term may hold an operator's name, and any space cuts a query. -/
theorem tokenize_laws_android :
    Token.term "android" ∈ tokenize "nOt(android)" ∧ isSpace '\u2003' = true ∧
      WrittenBy [.operator .not, .openParen, .term "android", .closeParen] "nOt(android)".toList ∧
      (∀ op : Operator, ¬op.IsWrittenBy "android".toList) ∧
      tokenize ("or" ++ String.singleton '\u2003' ++ "oR") = [.operator .or, .operator .or] := by
  have htokens : tokenize "nOt(android)" =
      [.operator .not, .openParen, .term "android", .closeParen] := by
    decide +kernel
  have hmem : Token.term "android" ∈ tokenize "nOt(android)" := by simp [htokens]
  have hspace : isSpace '\u2003' = true := by decide
  have hquery := tokenize_laws.1 "nOt(android)"
  refine ⟨hmem, hspace, ?_, (hquery.2.1 "android" hmem).2.2, ?_⟩
  · exact htokens ▸ hquery.1
  · exact ((tokenize_laws.2 "or" "oR").1 '\u2003' hspace).trans (by decide +kernel)

end SpendingLedger.Query

import SpendingLedger.Proofs.Ledger.Sound

/-!
# Transactions of statements

Whatever the cells of a statement hold, its transactions have ids that are not blank, and neither an
id nor a description has space at its ends.  Ids that are minted are hexadecimal numbers.

## Main definitions

* `Mint.IsHexadecimal` — what minted ids look like.

## Main results

* `Statement.isClean_of_transaction` — **the transaction of a record is clean.**
* `Statement.isClean_of_load` — so are all transactions of a statement.
-/

namespace SpendingLedger

open Text (Trimmed isSpace isWhite)

/-- Whether each id to come has thirty-two hexadecimal digits. -/
def Mint.IsHexadecimal (mint : Mint) : Prop :=
  ∀ n, (mint n).toList.length = 32 ∧ ∀ c ∈ (mint n).toList, c ∈ "0123456789abcdef".toList

namespace Statement

theorem isSpace_of_hexadecimal {c : Char} (h : c ∈ "0123456789abcdef".toList) :
    isSpace c = false := by
  have hall : "0123456789abcdef".toList.all (fun c => !isSpace c) = true := by decide
  simpa using List.all_eq_true.1 hall c h

/-- A minted id is neither blank nor has it space at its ends. -/
theorem trimmed_mint {mint : Mint} (h : mint.IsHexadecimal) (n : Nat) :
    mint n ≠ "" ∧ Trimmed isSpace (mint n).toList := by
  obtain ⟨hlength, hdigits⟩ := h n
  refine ⟨?_, ?_, ?_⟩
  · intro hempty
    rw [hempty] at hlength
    cases hlength
  · exact fun c hc => isSpace_of_hexadecimal (hdigits c (List.mem_of_mem_head? hc))
  · exact fun c hc => isSpace_of_hexadecimal (hdigits c (List.mem_of_getLast? hc))

theorem trimmed_trim (s : String) : Trimmed isSpace (Text.trim s).toList := by
  rw [Text.toList_trim]
  exact Text.trimmed_trimBy isSpace s.toList

theorem trimmed_of_trimmedText {v : Value} {text : String} (h : trimmedText v = .ok text) :
    Trimmed isSpace text.toList := by
  unfold trimmedText at h
  split at h
  · cases h
    exact Text.trimmed_nil isSpace
  · cases hv : v.asText with
    | error e =>
      rw [hv] at h
      cases h
    | ok s =>
      rw [hv] at h
      cases h
      exact trimmed_trim s

/-- The transaction of a record has the given id and the description that is found in the
record. -/
theorem of_transactionNamed {id : String} {record : Fields Value} {t : Transaction}
    (h : transactionNamed id record = .ok t) :
    t.id = id ∧ ∃ text, trimmedText ((Fields.get? "description" record).getD .null) = .ok text ∧
      t.description = some text := by
  unfold transactionNamed at h
  split at h
  · cases h
  split at h
  · cases h
  next text htext =>
  split at h
  · cases h
  cases h
  exact ⟨rfl, text, htext, rfl⟩

/-- A trimmed id that is not empty makes a clean transaction. -/
theorem isClean_of_transactionNamed {id : String} {record : Fields Value} {t : Transaction}
    (h : transactionNamed id record = .ok t) (hne : id ≠ "") (hid : Trimmed isSpace id.toList) :
    t.IsClean := by
  obtain ⟨htid, text, hfound, htext⟩ := of_transactionNamed h
  refine ⟨?_, ?_, text, htext, (trimmed_of_trimmedText hfound).white⟩
  · rw [htid]
    exact Text.not_isBlank_of_trimmed hid hne
  · rw [htid]
    exact hid.white

variable {mint : Mint}

/-- The transaction of a record is clean, whether it brings its own id or one is minted. -/
theorem isClean_of_transaction (hmint : mint.IsHexadecimal) {minted n : Nat}
    {record : Fields Value} {t : Transaction}
    (h : transaction mint minted record = (.ok t, n)) : t.IsClean := by
  unfold transaction at h
  split at h
  · cases h
  next id hid =>
  have htrimmed : Trimmed isSpace id.toList := trimmed_of_trimmedText hid
  split at h
  · obtain ⟨hne, hminted⟩ := trimmed_mint hmint minted
    exact isClean_of_transactionNamed (Prod.mk.inj h).1 hne hminted
  · next hempty =>
    have hne : id ≠ "" := by
      rintro rfl
      exact hempty rfl
    exact isClean_of_transactionNamed (Prod.mk.inj h).1 hne htrimmed

theorem isClean_of_transactions (hmint : mint.IsHexadecimal) {minted n : Nat}
    {records : List (Fields Value)} {ts : List Transaction}
    (h : transactions mint minted records = (.ok ts, n)) : ∀ t ∈ ts, t.IsClean := by
  induction records generalizing minted n ts with
  | nil =>
    cases h
    exact fun t ht => absurd ht List.not_mem_nil
  | cons record rest ih =>
    unfold transactions at h
    split at h
    · cases h
    next t m hfirst =>
    cases hrest : transactions mint m rest with
    | mk found k =>
      rw [hrest] at h
      cases found with
      | error e => cases h
      | ok us =>
        cases h
        intro u hu
        rcases List.mem_cons.1 hu with rfl | hu
        · exact isClean_of_transaction hmint hfirst
        · exact ih hrest u hu

/-- All transactions of a statement are clean. -/
theorem isClean_of_load (hmint : mint.IsHexadecimal) {minted n : Nat} {text : String}
    {ts : List Transaction} (h : load mint minted text = (.ok ts, n)) : ∀ t ∈ ts, t.IsClean := by
  unfold load at h
  split at h
  · cases h
  next rs _ =>
  split at h
  · cases h
  cases hfound : transactions mint minted rs with
  | mk found k =>
    rw [hfound] at h
    cases found with
    | error e => cases h
    | ok us =>
      cases h
      exact isClean_of_transactions hmint hfound

end Statement

end SpendingLedger

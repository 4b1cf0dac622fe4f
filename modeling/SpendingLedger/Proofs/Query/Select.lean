import SpendingLedger.Query.Filter

/-!
# Searches that succeed and searches that fail

A search succeeds exactly when its condition has a truth value for every transaction, and then it
keeps those for which that is true.  A search that fails does so at some transaction.

## Main results

* `select_eq_ok_iff` — when a search succeeds, and what it gives.
* `exists_of_select_eq_error` — where a search fails.
-/

namespace SpendingLedger.Query

/-- A search succeeds exactly when its condition has a truth value for every transaction, and keeps
those for which it is true. -/
theorem select_eq_ok_iff {holds : Transaction → Except QueryError Bool}
    {ledger kept : List Transaction} :
    select holds ledger = .ok kept ↔
      ∃ keeps : Transaction → Bool,
        (∀ t ∈ ledger, holds t = .ok (keeps t)) ∧ kept = ledger.filter keeps := by
  constructor
  · intro h
    refine ⟨fun t => (holds t).toOption.getD false, ?_⟩
    induction ledger generalizing kept with
    | nil =>
      cases h
      simp
    | cons t rest ih =>
      rw [select] at h
      cases ht : holds t with
      | error e => simp [ht] at h
      | ok keep =>
        rw [ht] at h
        cases hrest : select holds rest with
        | error e => simp [hrest, Except.map] at h
        | ok kept' =>
          obtain ⟨hall, hkept'⟩ := ih hrest
          simp only [hrest, Except.map, Except.ok.injEq] at h
          refine ⟨?_, ?_⟩
          · intro u hu
            rcases List.mem_cons.1 hu with rfl | hu
            · simp [ht, Except.toOption]
            · exact hall u hu
          · rw [← h, List.filter_cons, ht, ← hkept']
            rfl
  · rintro ⟨keeps, hall, rfl⟩
    induction ledger with
    | nil => rfl
    | cons t rest ih =>
      rw [select, hall t (List.mem_cons_self ..), ih fun u hu => hall u (List.mem_cons_of_mem _ hu),
        List.filter_cons]
      rfl

/-- A search succeeds if its condition has a truth value for every transaction. -/
theorem exists_select {holds : Transaction → Except QueryError Bool} {ledger : List Transaction}
    (h : ∀ t ∈ ledger, ∃ b, holds t = .ok b) : ∃ kept, select holds ledger = .ok kept := by
  refine ⟨_, select_eq_ok_iff.2 ⟨fun t => (holds t).toOption.getD false, fun t ht => ?_, rfl⟩⟩
  obtain ⟨b, hb⟩ := h t ht
  simp [hb, Except.toOption]

/-- A search that fails does so with the error of some transaction. -/
theorem exists_of_select_eq_error {holds : Transaction → Except QueryError Bool}
    {ledger : List Transaction} {err : QueryError} (h : select holds ledger = .error err) :
    ∃ t ∈ ledger, holds t = .error err := by
  induction ledger with
  | nil => cases h
  | cons t rest ih =>
    rw [select] at h
    cases ht : holds t with
    | error e =>
      obtain rfl : e = err := by simpa [ht] using h
      exact ⟨t, List.mem_cons_self .., ht⟩
    | ok keep =>
      rw [ht] at h
      cases hrest : select holds rest with
      | ok kept => simp [hrest, Except.map] at h
      | error e =>
        obtain rfl : e = err := by simpa [hrest, Except.map] using h
        obtain ⟨u, hu, hfail⟩ := ih hrest
        exact ⟨u, List.mem_cons_of_mem _ hu, hfail⟩

end SpendingLedger.Query

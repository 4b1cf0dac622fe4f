import SpendingLedger.Proofs.Json.RoundTrip
import SpendingLedger.Proofs.Number.ReadBack

/-!
# What is read can be written

The reader gives readable values only: integers that are not too long, lists and objects that are
not too deep, and objects in which no name is repeated.  Such a value comes back from what is
written of it, and it has a text of its own.

## Main results

* `readable_of_value`, `readable_of_read` — **what is read is readable.**
* `exists_quoted_of_readable`, `exists_asText_of_readable` — a readable value has a text, which is
  blank only if the value is a text itself.
-/

namespace SpendingLedger.Json

/-! ### Numbers -/

theorem isDigit_of_mem_takeWhole {cs : List Char} {c : Char} (h : c ∈ (takeWhole cs).1) :
    c.isDigit = true := by
  unfold takeWhole at h
  split at h
  · rw [List.mem_singleton.1 h]
    decide
  · exact List.mem_takeWhile_imp h

/-- An integer has no more digits than the text that writes it. -/
theorem readable_ofDigits {negative : Bool} {digits : List Char} {n : Int} (hne : digits ≠ [])
    (hdigits : ∀ c ∈ digits, c.isDigit = true) (h : Integer.ofDigits negative digits = .ok n)
    (depth : Nat) : Readable depth (.int n) := by
  unfold Integer.ofDigits at h
  split at h
  · cases h
  next hshort =>
  cases h
  have hvalue : (if negative then -(digitsValue digits : Int) else digitsValue digits).natAbs =
      digitsValue digits := by
    cases negative <;> simp
  show (natDigits _).length ≤ Integer.digitLimit
  rw [hvalue]
  exact Nat.le_trans (length_natDigits_digitsValue_le hne hdigits) (Nat.le_of_not_lt hshort)

theorem exists_number_eq (cs : List Char) :
    ∃ negative body, number cs = numberBehind negative cs body := by
  unfold number
  split
  next negative body _ => exact ⟨negative, body, rfl⟩

theorem readable_number {cs rest : List Char} {v : Value} (h : number cs = .ok (v, rest))
    (depth : Nat) : Readable depth v := by
  obtain ⟨negative, body, hnumber⟩ := exists_number_eq cs
  rw [hnumber] at h
  unfold numberBehind at h
  dsimp only at h
  split at h
  · cases h
  next hwhole =>
  split at h
  · split at h
    · next n hn =>
      cases h
      exact readable_ofDigits (by simpa using hwhole) (fun c hc => isDigit_of_mem_takeWhole hc) hn
        depth
    · cases h
  · split at h
    · cases h
      exact trivial
    · cases h

theorem readable_atom {cs rest : List Char} {v : Value} (h : atom cs = .ok (v, rest))
    (depth : Nat) : Readable depth v := by
  unfold atom at h
  split at h
  · next w v' hword =>
    cases h
    have hmem : (w, v) ∈ words := List.mem_of_find?_eq_some hword
    simp only [words, List.mem_cons, List.not_mem_nil, or_false, Prod.mk.injEq] at hmem
    rcases hmem with ⟨-, rfl⟩ | ⟨-, rfl⟩ | ⟨-, rfl⟩ | ⟨-, rfl⟩ | ⟨-, rfl⟩ | ⟨-, rfl⟩ <;>
      exact trivial
  · exact readable_number h depth

/-! ### Lists and objects -/

theorem map_eq_ok {ε α β : Type} {f : α → β} {x : Except ε α} {b : β} (h : x.map f = .ok b) :
    ∃ a, x = .ok a ∧ f a = b := by
  cases x with
  | error e => cases h
  | ok a => exact ⟨a, rfl, Except.ok.inj h⟩

/-- Of the members of an object those are kept that come last, each name once. -/
theorem readable_table {depth : Nat} {fs : List (String × Value)} (hdepth : 0 < depth)
    (h : ReadableFields (depth - 1) fs) : Readable depth (.table (Fields.ofList fs)) := by
  refine ⟨hdepth, (Fields.names_ofList fs).1, readableFields_iff.2 fun f hf => ?_⟩
  exact readableFields_iff.1 h f (Fields.mem_of_mem_ofList hf)

mutual

/-- What is read is readable. -/
theorem readable_of_value : ∀ (depth fuel : Nat) (cs : List Char) (v : Value) (rest : List Char),
    value depth fuel cs = .ok (v, rest) → Readable depth v
  | _, 0, _, _, _, h => by cases h
  | depth, fuel + 1, cs, v, rest, h => by
    unfold value at h
    split at h
    · cases h
    split at h
    · -- a text
      obtain ⟨⟨s, r⟩, -, heq⟩ := map_eq_ok h
      cases heq
      exact trivial
    split at h
    · -- a list, whose items have one level less
      split at h
      · cases h
      next hdepth =>
      have hpos : 0 < depth := Nat.pos_of_ne_zero hdepth
      split at h
      · cases h
        exact ⟨hpos, trivial⟩
      · obtain ⟨⟨vs, r⟩, hitems, heq⟩ := map_eq_ok h
        cases heq
        exact ⟨hpos, readable_of_items (depth - 1) fuel _ vs rest hitems⟩
    split at h
    · -- an object, likewise
      split at h
      · cases h
      next hdepth =>
      have hpos : 0 < depth := Nat.pos_of_ne_zero hdepth
      split at h
      · cases h
        exact ⟨hpos, List.nodup_nil, trivial⟩
      · obtain ⟨⟨fs, r⟩, hmembers, heq⟩ := map_eq_ok h
        cases heq
        exact readable_table hpos (readable_of_members (depth - 1) fuel _ fs rest hmembers)
    · exact readable_atom h depth
termination_by structural _ fuel => fuel

theorem readable_of_items : ∀ (depth fuel : Nat) (cs : List Char) (vs : List Value)
    (rest : List Char), items depth fuel cs = .ok (vs, rest) → ReadableItems depth vs
  | _, 0, _, _, _, h => by cases h
  | depth, fuel + 1, cs, vs, rest, h => by
    unfold items at h
    split at h
    · cases h
    next v behind hvalue =>
    have hv := readable_of_value depth fuel _ v _ hvalue
    split at h
    · cases h
      exact ⟨hv, trivial⟩
    · obtain ⟨⟨ws, r⟩, hitems, heq⟩ := map_eq_ok h
      cases heq
      exact ⟨hv, readable_of_items depth fuel _ ws rest hitems⟩
    · cases h
termination_by structural _ fuel => fuel

theorem readable_of_members : ∀ (depth fuel : Nat) (cs : List Char) (fs : List (String × Value))
    (rest : List Char), members depth fuel cs = .ok (fs, rest) → ReadableFields depth fs
  | _, 0, _, _, _, h => by cases h
  | depth, fuel + 1, cs, fs, rest, h => by
    unfold members at h
    split at h
    · split at h
      · cases h
      split at h
      · split at h
        · cases h
        next v behind hvalue =>
        have hv := readable_of_value depth fuel _ v _ hvalue
        split at h
        · cases h
          exact ⟨hv, trivial⟩
        · obtain ⟨⟨gs, r⟩, hmembers, heq⟩ := map_eq_ok h
          cases heq
          exact ⟨hv, readable_of_members depth fuel _ gs rest hmembers⟩
        · cases h
      · cases h
    · cases h
termination_by structural _ fuel => fuel

end

/-! ### Whole texts -/

/-- The value of a text is readable. -/
theorem readable_of_read {text : String} {v : Value} (h : read text = .ok v) :
    Readable greatestDepth v := by
  unfold read at h
  cases hparse : parseAll text.toList with
  | error e =>
    rw [hparse] at h
    cases h
  | ok w =>
    rw [hparse] at h
    cases h
    unfold parseAll at hparse
    split at hparse
    · cases hparse
    split at hparse
    · cases hparse
    next v' rest hvalue =>
    split at hparse
    · cases hparse
      exact readable_of_value _ _ _ _ _ hvalue
    · cases hparse

/-! ### Texts of values -/

mutual

/-- A readable value has a text: an integer that is too long for one is not read. -/
theorem exists_quoted_of_readable : ∀ (v : Value) (depth : Nat), Readable depth v →
    ∃ cs, v.quoted = .ok cs
  | .null, _, _ => ⟨_, rfl⟩
  | .bool _, _, _ => ⟨_, rfl⟩
  | .int n, _, h => by
    have htext : Integer.text n = .ok (String.ofList (Integer.chars n)) := if_neg (Nat.not_lt.2 h)
    refine ⟨Integer.chars n, ?_⟩
    rw [Value.quoted, htext]
    exact congrArg Except.ok String.toList_ofList
  | .float _, _, _ => ⟨_, rfl⟩
  | .decimal _, _, h => h.elim
  | .text _, _, _ => ⟨_, rfl⟩
  | .list vs, depth, h => by
    obtain ⟨parts, hparts⟩ := exists_quotedItems_of_readable vs (depth - 1) h.2
    exact ⟨_, by rw [Value.quoted, hparts]; rfl⟩
  | .table fs, depth, h => by
    obtain ⟨parts, hparts⟩ := exists_quotedFields_of_readable fs (depth - 1) h.2.2
    exact ⟨_, by rw [Value.quoted, hparts]; rfl⟩

theorem exists_quotedItems_of_readable : ∀ (vs : List Value) (depth : Nat),
    ReadableItems depth vs → ∃ parts, Value.quotedItems vs = .ok parts
  | [], _, _ => ⟨[], rfl⟩
  | v :: vs, depth, h => by
    obtain ⟨cs, hcs⟩ := exists_quoted_of_readable v depth h.1
    obtain ⟨parts, hparts⟩ := exists_quotedItems_of_readable vs depth h.2
    exact ⟨cs :: parts, by rw [Value.quotedItems, hcs, hparts]; rfl⟩

theorem exists_quotedFields_of_readable : ∀ (fs : List (String × Value)) (depth : Nat),
    ReadableFields depth fs → ∃ parts, Value.quotedFields fs = .ok parts
  | [], _, _ => ⟨[], rfl⟩
  | (name, v) :: fs, depth, h => by
    obtain ⟨cs, hcs⟩ := exists_quoted_of_readable v depth h.1
    obtain ⟨parts, hparts⟩ := exists_quotedFields_of_readable fs depth h.2
    exact ⟨_, by rw [Value.quotedFields, hcs, hparts]; rfl⟩

end

theorem not_isBlank_of_mem {cs : List Char} {c : Char} (h : c ∈ cs) (hc : Text.isSpace c = false) :
    Text.isBlank (String.ofList cs) = false := by
  rw [Text.isBlank, String.toList_ofList, List.all_eq_false]
  exact ⟨c, h, by simp [hc]⟩

theorem not_isBlank_integerChars (n : Int) :
    Text.isBlank (String.ofList (Integer.chars n)) = false := by
  obtain ⟨d, ds, hdigits⟩ := List.exists_cons_of_ne_nil (natDigits_ne_nil n.natAbs)
  have hd : d.isDigit = true := isDigit_of_mem_natDigits (hdigits ▸ List.mem_cons_self)
  refine not_isBlank_of_mem (c := d) ?_ (isSpace_of_isNumberChar (Or.inl hd))
  rw [Integer.chars, hdigits]
  unfold Binary64.withSign
  split <;> simp

theorem not_isBlank_textChars (x : Binary64) :
    Text.isBlank (String.ofList x.textChars) = false := by
  cases x with
  | nan => decide
  | infinite negative => cases negative <;> decide
  | finite negative units hunits =>
    obtain ⟨sign, p, hp, -, hchars, -⟩ :=
      Binary64.exists_parts_of_isFinite (x := .finite negative units hunits) rfl
    obtain ⟨d, ds, hdigits, hd⟩ := NumberParts.exists_chars_eq_cons hp
    refine not_isBlank_of_mem (c := d) ?_ (isSpace_of_isNumberChar (Or.inl hd))
    rw [hchars, hdigits]
    unfold Binary64.withSign
    split <;> simp

/-- Only texts can be blank. -/
theorem exists_asText_of_readable {depth : Nat} {v : Value} (h : Readable depth v)
    (hv : ∀ s, v ≠ .text s) : ∃ s, v.asText = .ok s ∧ Text.isBlank s = false := by
  obtain ⟨cs, hcs⟩ := exists_quoted_of_readable v depth h
  have htext : (v.quoted).map String.ofList = .ok (String.ofList cs) := by
    rw [hcs]
    rfl
  cases v with
  | null => exact ⟨_, rfl, by decide⟩
  | bool b => cases b <;> exact ⟨_, rfl, by decide⟩
  | int n =>
    have hchars : Integer.text n = .ok (String.ofList (Integer.chars n)) := if_neg (Nat.not_lt.2 h)
    rw [Value.quoted, hchars] at hcs
    cases hcs
    refine ⟨_, htext, ?_⟩
    rw [String.toList_ofList]
    exact not_isBlank_integerChars n
  | float x => exact ⟨_, rfl, not_isBlank_textChars x⟩
  | decimal x => exact h.elim
  | text s => exact absurd rfl (hv s)
  | list vs =>
    refine ⟨_, htext, not_isBlank_of_mem (c := '[') ?_ (by decide)⟩
    obtain ⟨parts, -, rfl⟩ := map_eq_ok hcs
    exact List.mem_cons_self
  | table fs =>
    refine ⟨_, htext, not_isBlank_of_mem (c := '\x7b') ?_ (by decide)⟩
    obtain ⟨parts, -, rfl⟩ := map_eq_ok hcs
    exact List.mem_cons_self

end SpendingLedger.Json

import SpendingLedger.Disk.Tree
import SpendingLedger.Proofs.Json.RoundTrip

/-!
# Line ends in JSON

A value is written with line feeds only, since a carriage return inside a string is escaped.  So the
line ends of a file that holds a value are those that were written.

## Main results

* `Json.return_not_mem_renderAt` — **a value is written without carriage returns.**
* `Disk.readText_render` — the text of a value is read from a file as it was written there.
-/

namespace SpendingLedger.Json

/-! ### Numbers -/

theorem return_not_mem_of_digits {cs : List Char} (h : ∀ c ∈ cs, c.isDigit = true) :
    '\r' ∉ cs := fun hmem => absurd (h _ hmem) (by decide)

theorem return_not_mem_withSign {cs : List Char} (h : '\r' ∉ cs) (negative : Bool) :
    '\r' ∉ Binary64.withSign negative cs := by
  cases negative with
  | true => exact List.not_mem_cons_of_ne_of_not_mem (by decide) h
  | false => exact h

theorem NumberParts.return_not_mem {p : NumberParts} (h : p.WellFormed) : '\r' ∉ p.chars := by
  have hwhole := return_not_mem_of_digits h.whole_digits
  have hfraction : '\r' ∉ p.fractionChars := by
    have hdigits := return_not_mem_of_digits h.fraction_digits
    unfold fractionChars
    split
    · exact List.not_mem_nil
    · exact List.not_mem_cons_of_ne_of_not_mem (by decide) hdigits
  have hpower : '\r' ∉ p.powerChars := by
    unfold powerChars
    split
    · exact List.not_mem_nil
    · next negative digits hp =>
      have hdigits := return_not_mem_of_digits (h.power_digits negative digits hp).2
      cases negative <;> simp [hdigits]
  simp [chars, hwhole, hfraction, hpower]

theorem return_not_mem_numberText (x : Binary64) : '\r' ∉ numberText x := by
  cases x with
  | nan => decide
  | infinite s => cases s <;> decide
  | finite s u h =>
    show '\r' ∉ Binary64.withSign s (Binary64.magnitudeText Binary64.style u)
    refine return_not_mem_withSign ?_ s
    by_cases hzero : u = 0
    · rw [Binary64.magnitudeText, if_pos hzero]
      decide
    · obtain ⟨p, hp, -, hchars, -⟩ := writes_magnitudeText h hzero Binary64.style
      rw [← hchars]
      exact p.return_not_mem hp

/-! ### Strings -/

theorem return_not_mem_hex {n : Nat} (h : n < 0x20) : '\r' ∉ Text.hex 4 n := by
  have hall : ∀ m : Fin 0x20, '\r' ∉ Text.hex 4 m.val := by decide
  exact hall ⟨n, h⟩

theorem return_not_mem_escapeChar (c : Char) : '\r' ∉ escapeChar c := by
  unfold escapeChar
  split
  all_goals try decide
  next _ _ _ hreturn _ _ _ =>
    split
    · next hcontrol =>
      have hhex := return_not_mem_hex hcontrol
      simp [hhex]
    · exact fun hmem => hreturn (List.mem_singleton.1 hmem).symm

theorem return_not_mem_quoteString (s : String) : '\r' ∉ quoteString s := by
  have hinside : '\r' ∉ s.toList.flatMap escapeChar := by
    intro hmem
    obtain ⟨c, -, hc⟩ := List.mem_flatMap.1 hmem
    exact return_not_mem_escapeChar c hc
  simp [quoteString, hinside]

/-! ### Values -/

theorem return_not_mem_newLine (k : Nat) : '\r' ∉ newLine k := by
  unfold newLine
  refine List.not_mem_cons_of_ne_of_not_mem (by decide) fun hmem => ?_
  exact absurd (List.eq_of_mem_replicate hmem) (by decide)

theorem return_not_mem_intercalate {sep : List Char} {parts : List (List Char)}
    (hsep : '\r' ∉ sep) (hparts : ∀ part ∈ parts, '\r' ∉ part) :
    '\r' ∉ List.intercalate sep parts := by
  induction parts with
  | nil => exact List.not_mem_nil
  | cons part parts ih =>
    have hpart := hparts part List.mem_cons_self
    have hrest := ih fun other hmem => hparts other (List.mem_cons_of_mem part hmem)
    cases parts with
    | nil => rwa [List.intercalate_singleton]
    | cons other parts =>
      rw [List.intercalate_cons_cons]
      simp [hpart, hsep, hrest]

theorem return_not_mem_bracketed {left right : Char} (hleft : '\r' ≠ left) (hright : '\r' ≠ right)
    (k : Nat) {parts : List (List Char)} (hparts : ∀ part ∈ parts, '\r' ∉ part) :
    '\r' ∉ bracketed left right k parts := by
  have hinner := return_not_mem_newLine (k + 1)
  have hsep : '\r' ∉ ',' :: newLine (k + 1) :=
    List.not_mem_cons_of_ne_of_not_mem (by decide) hinner
  have hitems := return_not_mem_intercalate hsep hparts
  unfold bracketed
  split
  · simp [hleft, hright]
  · simp [hleft, hright, hinner, hitems, return_not_mem_newLine k]

mutual

/-- A value is written without carriage returns. -/
theorem return_not_mem_renderAt : ∀ (v : Value) (k : Nat), '\r' ∉ renderAt k v
  | .null, _ => by rw [renderAt]; decide
  | .bool true, _ => by rw [renderAt]; decide
  | .bool false, _ => by rw [renderAt]; decide
  | .int _, _ => return_not_mem_withSign
      (return_not_mem_of_digits fun _ => isDigit_of_mem_natDigits) _
  | .float x, _ => return_not_mem_numberText x
  | .decimal _, _ => return_not_mem_quoteString _
  | .text s, _ => return_not_mem_quoteString s
  | .list vs, k => by
    rw [renderAt]
    exact return_not_mem_bracketed (by decide) (by decide) k (return_not_mem_renderItems vs (k + 1))
  | .table fs, k => by
    rw [renderAt]
    exact return_not_mem_bracketed (by decide) (by decide) k
      (return_not_mem_renderFields fs (k + 1))

/-- Items are written without carriage returns. -/
theorem return_not_mem_renderItems : ∀ (vs : List Value) (k : Nat),
    ∀ part ∈ renderItems k vs, '\r' ∉ part
  | [], _, part, hmem => absurd hmem List.not_mem_nil
  | v :: vs, k, part, hmem => by
    rw [renderItems] at hmem
    rcases List.mem_cons.1 hmem with rfl | hmem
    · exact return_not_mem_renderAt v k
    · exact return_not_mem_renderItems vs k part hmem

/-- Members are written without carriage returns. -/
theorem return_not_mem_renderFields : ∀ (fs : List (String × Value)) (k : Nat),
    ∀ part ∈ renderFields k fs, '\r' ∉ part
  | [], _, part, hmem => absurd hmem List.not_mem_nil
  | (name, v) :: fs, k, part, hmem => by
    rw [renderFields] at hmem
    rcases List.mem_cons.1 hmem with rfl | hmem
    · have hname := return_not_mem_quoteString name
      have hvalue := return_not_mem_renderAt v k
      simp [hname, hvalue]
    · exact return_not_mem_renderFields fs k part hmem

end

end SpendingLedger.Json

namespace SpendingLedger

/-! ### Files -/

theorem unifyLineEnds_of_not_mem {cs : List Char} (h : '\r' ∉ cs) : unifyLineEnds cs = cs := by
  induction cs with
  | nil => rfl
  | cons c cs ih =>
    have hc : c ≠ '\r' := fun hc => h (hc ▸ List.mem_cons_self)
    have hcs : '\r' ∉ cs := fun hmem => h (List.mem_cons_of_mem c hmem)
    unfold unifyLineEnds
    split
    · next heq => cases heq
    · next heq => exact absurd (List.cons.inj heq).1 hc
    · next heq =>
      obtain ⟨rfl, rfl⟩ := List.cons.inj heq
      rw [if_neg hc, ih hcs]

/-- The text of a value is read from a file as it was written there. -/
theorem Disk.readText_render {d : Disk} {l : Location} {v : Value}
    (h : d.node? l = some (.file (.text (Json.render v ++ "\n")))) :
    d.readText l = .ok (Json.render v ++ "\n") := by
  have hreturn : '\r' ∉ (Json.render v ++ "\n").toList := by
    rw [String.toList_append, Json.render, String.toList_ofList]
    simp [Json.return_not_mem_renderAt v 0]
  unfold readText
  rw [h]
  show Except.ok (String.ofList (unifyLineEnds (Json.render v ++ "\n").toList)) = _
  rw [unifyLineEnds_of_not_mem hreturn, String.ofList_toList]

end SpendingLedger

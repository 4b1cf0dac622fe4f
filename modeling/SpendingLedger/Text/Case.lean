import SpendingLedger.Text.CaseTable
import SpendingLedger.Text.Ranges

/-!
# Lower and upper case

The default case mappings of whole texts.  One character may become several, and one mapping looks
at the neighbours: a capital sigma that ends a word is lowered to the final form.

## Main definitions

* `lowerChars`, `lower` — the lower-case form of a text.
* `upperChars`, `upper` — the upper-case form of a text.
* `caseless` — the form in which words are compared without regard to case.
* `endsWord` — the context in which a capital sigma takes its final form.
-/

namespace SpendingLedger.Text

/-- The counterpart of `n` in an ascending list of runs, `n` itself when no run has it. -/
def counterpart (n : Nat) : List CaseRun → Nat
  | [] => n
  | r :: rest =>
    if n < r.first then n
    else if n ≤ r.last ∧ (n - r.first) % r.stride = 0 then (n + r.shift).toNat
    else counterpart n rest

/-- The lower-case form of a character outside the context of a capital sigma.  Only the capital I
with a dot becomes two characters. -/
def lowerChar (c : Char) : List Char :=
  if c = 'İ' then ['i', '\u0307'] else [Char.ofNat (counterpart c.toNat lowerRuns)]

/-- Whether the next character that is not case-ignorable is a cased one. -/
def nextIsCased (cs : List Char) : Bool :=
  match cs.dropWhile fun c => inRanges c.toNat caseIgnorableRanges with
  | [] => false
  | c :: _ => inRanges c.toNat casedRanges

/-- Whether a word ends between the text `before`, given backwards, and the text `after`: a cased
character comes before and none after, case-ignorable characters apart. -/
def endsWord (before after : List Char) : Bool :=
  nextIsCased before && !nextIsCased after

/-- The lower-case form of a text that follows the text `before`, given backwards. -/
def lowerAfter (before : List Char) : List Char → List Char
  | [] => []
  | c :: cs =>
    (if c = 'Σ' then [if endsWord before cs then 'ς' else 'σ'] else lowerChar c)
      ++ lowerAfter (c :: before) cs

/-- The lower-case form of `cs`. -/
def lowerChars (cs : List Char) : List Char := lowerAfter [] cs

/-- The lower-case form of `s`. -/
def lower (s : String) : String := String.ofList (lowerChars s.toList)

/-- The upper-case form of a character. -/
def upperChar (c : Char) : List Char :=
  match upperExpansions.lookup c.toNat with
  | some codes => codes.map Char.ofNat
  | none => [Char.ofNat (counterpart c.toNat upperRuns)]

/-- The upper-case form of `cs`. -/
def upperChars (cs : List Char) : List Char := cs.flatMap upperChar

/-- The upper-case form of `s`. -/
def upper (s : String) : String := String.ofList (upperChars s.toList)

/-- The form in which words are compared without regard to case: in lower case, with a common s for
the long one. -/
def caseless (s : String) : String :=
  String.ofList (lowerChars (s.toList.map fun c => if c = 'ſ' then 's' else c))

@[simp] theorem lowerChars_nil : lowerChars [] = [] := rfl

@[simp] theorem upperChars_nil : upperChars [] = [] := rfl

@[simp] theorem upperChars_append (cs ds : List Char) :
    upperChars (cs ++ ds) = upperChars cs ++ upperChars ds := by
  simp [upperChars]

@[simp] theorem toList_lower (s : String) : (lower s).toList = lowerChars s.toList := by
  simp [lower]

@[simp] theorem toList_upper (s : String) : (upper s).toList = upperChars s.toList := by
  simp [upper]

end SpendingLedger.Text

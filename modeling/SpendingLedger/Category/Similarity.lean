import SpendingLedger.Number.Binary64
import SpendingLedger.Text.Space

/-!
# Similarity of texts

Two texts are as similar as the pairs of neighbouring characters that they share: twice the number
of shared pairs over the number of all pairs.  A pair that occurs several times counts as often as
it does in both.  Space is left out of account.

## Main definitions

* `bigrams` — the pairs of neighbours of a text, with repetitions.
* `sharedCount` — how many members two lists share, with repetitions.
* `ratio`, `score` — the similarity as an exact quotient, and as a number.

## References

`SPEC_FULL.md`, section 4.6, *Similarity Scorer*.
-/

namespace SpendingLedger.Similarity

/-- The pairs of neighbours in `cs`, in order: the specification's `bigrams`, as a list. -/
def bigrams (cs : List Char) : List (Char × Char) := cs.zip cs.tail

/-- The number of members that two lists share, each as often as it is in both. -/
def sharedCount {α : Type} [DecidableEq α] : List α → List α → Nat
  | [], _ => 0
  | x :: xs, ys => if x ∈ ys then sharedCount xs (ys.erase x) + 1 else sharedCount xs ys

/-- `cs` without space. -/
def squeeze (cs : List Char) : List Char := cs.filter (!Text.isSpace ·)

/-- The similarity of two texts without space, as numerator and denominator.  Texts of fewer than
two characters have no pairs: they are alike or not. -/
def ratioSqueezed (a b : List Char) : Nat × Nat :=
  if a = b then (1, 1)
  else if a.length < 2 ∨ b.length < 2 then (0, 1)
  else (2 * sharedCount (bigrams a) (bigrams b), (a.length - 1) + (b.length - 1))

/-- The similarity of two texts, as numerator and denominator. -/
def ratio (first second : List Char) : Nat × Nat :=
  ratioSqueezed (squeeze first) (squeeze second)

/-- The number nearest to the similarity of two texts, the specification's `compare_strings`. -/
def score (first second : List Char) : Binary64 :=
  let r := ratio first second
  .ofRatio false r.1 r.2

/-- How often each pair of neighbours occurs in `cs`, in the order of the pairs. -/
def bigramCounts (cs : List Char) : List ((Char × Char) × Nat) :=
  let pairs := (bigrams cs).mergeSort fun p q => p.1 < q.1 || (p.1 == q.1 && p.2 ≤ q.2)
  pairs.eraseDups.map fun p => (p, pairs.count p)

@[simp] theorem length_bigrams (cs : List Char) : (bigrams cs).length = cs.length - 1 := by
  simp [bigrams]

end SpendingLedger.Similarity
